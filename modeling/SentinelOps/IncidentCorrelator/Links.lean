import SentinelOps.IncidentCorrelator.Attribution
import SentinelOps.IncidentCorrelator.Topology

/-!
# Links between incidents

What a run of `correlator` stores in its relations. `links_sound`: every relation goes from an incident
to one of a service that its own service depends on, in the same environment, their activity
overlapped within the window in the step that wrote it, no pair is stored twice, and where the
services have no cyclic dependencies the relations have no cycle.
-/

namespace SentinelOps

/-- No element leads back to itself. -/
def Acyclic {α : Type*} (R : α → α → Prop) : Prop := ∀ a, ¬ Relation.TransGen R a a

/-- What is mapped into a relation without cycles has none. -/
lemma Acyclic.of_map {α β : Type*} {R : α → α → Prop} {S : β → β → Prop} (h : Acyclic S) (f : α → β)
    (along : ∀ a b, R a b → S (f a) (f b)) : Acyclic R :=
  fun a cycle => h (f a) (cycle.lift f along)

namespace IncidentCorrelator

/-- The incidents that a relation joins. -/
def IncidentRelation.pair (r : IncidentRelation) : String × String :=
  (r.incidentId, r.relatedIncidentId)

/-- A relation joins two incidents of an environment along a dependency of their services. -/
def Joins (tcfg : TopologyConfig) (d : Incidents) (r : IncidentRelation) : Prop :=
  ∃ a b, d.get? r.incidentId = some a ∧ d.get? r.relatedIncidentId = some b ∧
    r.incidentId ≠ r.relatedIncidentId ∧ a.incident.environment = b.incident.environment ∧
    b.incident.service ∈ dependenciesOf a.incident.service tcfg.dependencyGraph

/-- The incidents of a relation overlap within the window. -/
def Overlapping (tcfg : TopologyConfig) (d : Incidents) (r : IncidentRelation) : Prop :=
  ∃ a b, d.get? r.incidentId = some a ∧ d.get? r.relatedIncidentId = some b ∧
    incidentsOverlap a.incident b.incident tcfg.correlationWindowSeconds = .ok true

/-- A service depends on another one. -/
def DependsOn (graph : DependencyGraph) (service other : String) : Prop :=
  other ∈ dependenciesOf service graph

/-- A relation goes from an incident to another one. -/
def LinkedTo (relations : List IncidentRelation) (id other : String) : Prop :=
  (id, other) ∈ relations.map (·.pair)

/-- What holds of the relations of a store. -/
structure LinksOk (tcfg : TopologyConfig) (m : Store) : Prop where
  joins : ∀ r ∈ m.relations, Joins tcfg m.incidents r
  once : (m.relations.map (·.pair)).Nodup

/-- An incident stays one of its service and environment. -/
def StaysInPlace (d d' : Incidents) : Prop :=
  ∀ id s, d.get? id = some s → ∃ s', d'.get? id = some s' ∧
    s'.incident.service = s.incident.service ∧ s'.incident.environment = s.incident.environment

variable {cfg : ProcessorConfig} {tcfg : TopologyConfig} {signal : AnomalySignal} {m : Store}

/-- A relation goes on joining its incidents. -/
lemma Joins.mono {d d' : Incidents} {r} (h : Joins tcfg d r) (stay : StaysInPlace d d') :
    Joins tcfg d' r := by
  obtain ⟨a, b, found_a, found_b, distinct, same, along⟩ := h
  obtain ⟨a', found_a', service_a, environment_a⟩ := stay _ _ found_a
  obtain ⟨b', found_b', service_b, environment_b⟩ := stay _ _ found_b
  refine ⟨a', b', found_a', found_b', distinct, ?_, ?_⟩
  · rw [environment_a, environment_b, same]
  · rw [service_a, service_b]
    exact along

/-- The comparison may be made the other way round. -/
lemma incidentsOverlap_swap {x y w} (h : incidentsOverlap x y w = .ok true) :
    incidentsOverlap y x w = .ok true := by
  obtain ⟨slack, converted, h⟩ := Except.bind_eq_ok.mp h
  obtain ⟨untilY, addedY, h⟩ := Except.bind_eq_ok.mp h
  split at h
  · rename_i first
    obtain ⟨untilX, addedX, h⟩ := Except.bind_eq_ok.mp h
    have second : y.startedAt ≤ untilX := by
      have := Except.ok.inj h
      simpa using this
    unfold incidentsOverlap
    rw [converted, Except.ok_bind, addedX, Except.ok_bind, if_pos second, addedY, Except.ok_bind]
    exact congrArg Except.ok (decide_eq_true first)
  · cases Except.ok.inj h

/-- The comparison looks at when the incidents were active. -/
lemma incidentsOverlap_congr {x x' y y' : Incident} {w} (started_x : x'.startedAt = x.startedAt)
    (last_x : x'.lastEvidenceAt = x.lastEvidenceAt) (started_y : y'.startedAt = y.startedAt)
    (last_y : y'.lastEvidenceAt = y.lastEvidenceAt) :
    incidentsOverlap x' y' w = incidentsOverlap x y w := by
  unfold incidentsOverlap
  rw [started_x, last_x, started_y, last_y]

/-- The relations after some links were committed. -/
lemma mem_addLinks {links relations : List IncidentRelation} {r}
    (h : r ∈ links.foldl addLink relations) : r ∈ relations ∨ r ∈ links := by
  induction links generalizing relations with
  | nil => exact .inl h
  | cons link links ih =>
    obtain old | new := ih h
    · unfold addLink at old
      split at old
      · exact .inl old
      · obtain old | new := List.mem_append.mp old
        · exact .inl old
        · exact .inr (List.mem_cons.mpr (.inl (List.mem_singleton.mp new)))
    · exact .inr (List.mem_cons_of_mem _ new)

/-- No pair is linked twice. -/
lemma nodup_addLinks {links relations : List IncidentRelation}
    (h : (relations.map (·.pair)).Nodup) :
    ((links.foldl addLink relations).map (·.pair)).Nodup := by
  induction links generalizing relations with
  | nil => exact h
  | cons link links ih =>
    apply ih
    unfold addLink
    split
    · exact h
    · rename_i new
      rw [List.map_append, List.nodup_append]
      refine ⟨h, List.nodup_singleton _, ?_⟩
      intro p old q link' same
      obtain ⟨r, mem, rfl⟩ := List.mem_map.mp old
      rw [List.map_singleton, List.mem_singleton] at link'
      rw [link'] at same
      apply new
      rw [List.any_eq_true]
      exact ⟨r, mem, decide_eq_true (Prod.mk.inj same)⟩

/-- The candidates for a link. -/
lemma mem_activeIn {d : Incidents} {services environment i} (h : i ∈ d.activeIn services environment) :
    ∃ id s, d.get? id = some s ∧ s.incident = i ∧ i.service ∈ services ∧
      i.environment = environment := by
  obtain ⟨s, there, rfl⟩ := List.mem_map.mp h
  obtain ⟨mem, suits⟩ := List.mem_filter.mp there
  obtain ⟨service, same, -⟩ := of_decide_eq_true suits
  obtain ⟨id, found⟩ := Dict.mem_values_iff.mp mem
  exact ⟨id, s, found, rfl, service, same⟩

/-- A link of a unit of work is one of the incident it goes on with to another stored one. -/
lemma linksOf_sound {d : Incidents} (keys : KeysOk d) {current now}
    {links : List IncidentRelation} (h : linksOf tcfg current now d = .ok (links.map .linkIncident)) {r} (mem : r ∈ links) :
    ∃ s, d.get? s.incident.id = some s ∧ s.incident.id ≠ current.id ∧
      s.incident.environment = current.environment ∧
      s.incident.service ∈ relatedServices current.service tcfg.dependencyGraph ∧
      incidentsOverlap current s.incident tcfg.correlationWindowSeconds = .ok true ∧
      r = relationOf tcfg current s.incident now := by
  have injective : Function.Injective Write.linkIncident := fun _ _ same => Write.linkIncident.inj same
  unfold linksOf at h
  dsimp only at h
  split at h
  · cases links with
    | nil => cases mem
    | cons link links => cases h
  · obtain ⟨found, traversed, h⟩ := Except.bind_eq_ok.mp h
    have same := injective.list_map (Except.ok.inj h)
    rw [← same] at mem
    obtain ⟨other, candidate, link⟩ := ((mapM_found traversed).2 r).mp mem
    obtain ⟨id, s, there, rfl, service, environment⟩ := mem_activeIn candidate
    unfold linkOf at link
    split at link
    · cases link
    · rename_i distinct
      obtain ⟨overlap, compared, link⟩ := Except.bind_eq_ok.mp link
      split at link
      · rename_i positive
        cases link
        refine ⟨s, ?_, distinct, environment, service, ?_, rfl⟩
        · rw [keys.keyed id s there]
          exact there
        · rw [compared, positive]
      · cases link

/-- The relation of a pair goes along the dependency between the services. -/
lemma relationOf_pair {current other : Incident} {now}
    (adjacent : other.service ∈ relatedServices current.service tcfg.dependencyGraph) :
    (other.service ∈ dependenciesOf current.service tcfg.dependencyGraph ∧
      (relationOf tcfg current other now).incidentId = current.id ∧
      (relationOf tcfg current other now).relatedIncidentId = other.id) ∨
    (current.service ∈ dependenciesOf other.service tcfg.dependencyGraph ∧
      (relationOf tcfg current other now).incidentId = other.id ∧
      (relationOf tcfg current other now).relatedIncidentId = current.id) := by
  unfold relationOf
  dsimp only
  by_cases downstream : other.service ∈ dependenciesOf current.service tcfg.dependencyGraph
  · rw [if_pos downstream]
    exact .inl ⟨downstream, rfl, rfl⟩
  · rw [if_neg downstream]
    obtain down | up := mem_relatedServices.mp adjacent
    · exact absurd down downstream
    · exact .inr ⟨up, rfl, rfl⟩

/-- What a unit of work leaves of the incidents: all stay in place, and those it does not go on with
were active when they were before. -/
lemma Carries.keeps {env d' current} (h : Carries cfg signal env m d' current)
    (fresh : m.incidents.get? (newIncidentId env.token) = none) {id s}
    (found : m.incidents.get? id = some s) :
    ∃ s', d'.get? id = some s' ∧ s'.incident.service = s.incident.service ∧
      s'.incident.environment = s.incident.environment ∧
      (id ≠ current.id → s'.incident.startedAt = s.incident.startedAt ∧
        s'.incident.lastEvidenceAt = s.incident.lastEvidenceAt) := by
  have old : id ≠ newIncidentId env.token := by
    rintro rfl
    rw [fresh] at found
    cases found
  cases h with
  | opened free => exact ⟨s, by rw [Dict.get?_set_ne old, found], rfl, rfl, fun _ => ⟨rfl, rfl⟩⟩
  | @appended s0 reason _ found0 key active recent =>
    by_cases own : id = s0.incident.id
    · subst own
      rw [found0] at found
      cases found
      exact ⟨_, Dict.get?_set_self, rfl, rfl, fun other => absurd rfl other⟩
    · exact ⟨s, by rw [Dict.get?_set_ne own, found], rfl, rfl, fun _ => ⟨rfl, rfl⟩⟩
  | @superseded s0 reason found0 key active =>
    rw [Dict.get?_set_ne old]
    by_cases own : id = s0.incident.id
    · subst own
      rw [found0] at found
      cases found
      exact ⟨_, Dict.get?_set_self, rfl, rfl, fun _ => ⟨rfl, rfl⟩⟩
    · exact ⟨s, by rw [Dict.get?_set_ne own, found], rfl, rfl, fun _ => ⟨rfl, rfl⟩⟩

/-- The links of a unit of work join incidents that overlap in the store it leaves. -/
lemma Carries.links {env d' current now} (h : Carries cfg signal env m d' current)
    (keys : KeysOk m.incidents) (fresh : m.incidents.get? (newIncidentId env.token) = none)
    {links : List IncidentRelation}
    (linked : linksOf tcfg current now m.incidents = .ok (links.map .linkIncident)) {r}
    (mem : r ∈ links) : Joins tcfg d' r ∧ Overlapping tcfg d' r := by
  obtain ⟨s, found, distinct, same, adjacent, overlap, rfl⟩ := linksOf_sound keys linked mem
  obtain ⟨c, found_c, rfl⟩ := h.current
  obtain ⟨s', found_s, service, environment, span⟩ := h.keeps fresh found
  obtain ⟨started, last⟩ := span distinct
  have overlap' : incidentsOverlap c.incident s'.incident tcfg.correlationWindowSeconds = .ok true := by
    rw [incidentsOverlap_congr rfl rfl started last]
    exact overlap
  obtain ⟨along, from', to'⟩ | ⟨along, from', to'⟩ := @relationOf_pair tcfg c.incident s.incident now adjacent
  · unfold Joins Overlapping
    rw [from', to']
    refine ⟨⟨c, s', found_c, found_s, distinct.symm, ?_, ?_⟩, c, s', found_c, found_s, overlap'⟩
    · rw [environment, same]
    · rw [service]
      exact along
  · unfold Joins Overlapping
    rw [from', to']
    refine ⟨⟨s', c, found_s, found_c, distinct, ?_, ?_⟩, s', c, found_s, found_c,
      incidentsOverlap_swap overlap'⟩
    · rw [environment, same]
    · rw [service]
      exact along

/-- What one call leaves: the incidents stay in place, and each new relation joins two incidents
that overlap. -/
lemma Correlator.step_links {w : Correlator} {l} (h : Conserved cfg w)
    (fresh : FreshIds w l (w.step cfg l)) :
    StaysInPlace w.store.incidents (w.step cfg l).store.incidents ∧
    ∃ links : List IncidentRelation,
      (w.step cfg l).store.relations = links.foldl addLink w.store.relations ∧
      ∀ r ∈ links, Joins cfg.topology (w.step cfg l).store.incidents r ∧
        Overlapping cfg.topology (w.step cfg l).store.incidents r := by
  have stay : ∀ d : Incidents, StaysInPlace d d := fun d id s found => ⟨s, found, rfl, rfl⟩
  cases l with
  | process signal env =>
    cases e : process cfg signal env w.store with
    | mk m' out =>
      have next : (w.step cfg (.process signal env)).store = m' := by
        unfold Correlator.step
        dsimp only
        rw [e]
      rw [next]
      obtain ⟨rfl, -⟩ | ⟨-, -, -, current, carried, links, linked, relations⟩ :=
        process_carries h.1.incidents.keys e
      · exact ⟨stay _, [], rfl, nofun⟩
      · have new := fresh signal env rfl 1
        refine ⟨fun id s found => ?_, links, relations, fun r mem =>
          carried.links h.1.incidents.keys new linked mem⟩
        obtain ⟨s', found', service, environment, -⟩ := carried.keeps new found
        exact ⟨s', found', service, environment⟩
  | transition incidentId target actor reason now =>
    change StaysInPlace w.store.incidents
        (w.store.transition incidentId target actor reason now).incidents ∧
      ∃ links : List IncidentRelation,
        (w.store.transition incidentId target actor reason now).relations =
          links.foldl addLink w.store.relations ∧ _
    rcases @Store.transition_cases w.store incidentId target actor reason now with
      same | ⟨s, found, _, moved⟩
    · rw [same]
      exact ⟨stay _, [], rfl, nofun⟩
    · rw [moved]
      refine ⟨fun id x there => ?_, [], rfl, nofun⟩
      by_cases own : id = incidentId
      · subst own
        rw [found] at there
        cases there
        exact ⟨_, Dict.get?_set_self, rfl, rfl⟩
      · exact ⟨x, (Dict.get?_set_ne own).trans there, rfl, rfl⟩

/-- One call keeps what holds of the relations. -/
lemma LinksOk.step {w : Correlator} {l} (h : Conserved cfg w) (links : LinksOk cfg.topology w.store)
    (fresh : FreshIds w l (w.step cfg l)) : LinksOk cfg.topology (w.step cfg l).store := by
  obtain ⟨stay, new, relations, sound⟩ := Correlator.step_links h fresh
  constructor
  · intro r mem
    rw [relations] at mem
    obtain old | fresh_link := mem_addLinks mem
    · exact (links.joins r old).mono stay
    · exact (sound r fresh_link).1
  · rw [relations]
    exact nodup_addLinks links.once

/-- Every state of a run satisfies it. -/
lemma linksOk_of_run {w0 w : Correlator} {ls} (init : (correlator cfg).init w0)
    (run : (correlator cfg).Run w0 ls w) (fresh : (correlator cfg).EachStep FreshIds w0 ls) :
    Conserved cfg w ∧ LinksOk cfg.topology w.store := by
  refine run.invariant_of (I := fun w => Conserved cfg w ∧ LinksOk cfg.topology w.store) fresh ?_ ?_
  · rintro u l u' ⟨conserved, links⟩ new st
    cases st
    exact ⟨conserved.step new, links.step conserved new⟩
  · refine ⟨conserved_of_run init .nil fun ls1 l ls2 u u' e => absurd e.symm (by simp), ?_⟩
    rw [init.1]
    exact ⟨nofun, List.nodup_nil⟩

/-- Over every run, every relation joins two incidents of one environment along a dependency of
their services, they overlapped within the window in the step that wrote it, no pair is stored twice,
and without cyclic dependencies of the services there is no cycle of relations. -/
theorem links_sound (cfg : ProcessorConfig) {w0 w : Correlator} {ls : List CorrelatorCall}
    (init : (correlator cfg).init w0) (run : (correlator cfg).Run w0 ls w)
    (fresh : (correlator cfg).EachStep FreshIds w0 ls) :
    (∀ r ∈ w.store.relations, Joins cfg.topology w.store.incidents r ∧
      ∃ ls1 l ls2 u u', ls = ls1 ++ l :: ls2 ∧ (correlator cfg).Run w0 ls1 u ∧
        (correlator cfg).step u l = some u' ∧ r ∉ u.store.relations ∧ r ∈ u'.store.relations ∧
        Overlapping cfg.topology u'.store.incidents r) ∧
    (w.store.relations.map (·.pair)).Nodup ∧
    (Acyclic (DependsOn cfg.topology.dependencyGraph) → Acyclic (LinkedTo w.store.relations)) := by
  obtain ⟨-, links⟩ := linksOk_of_run init run fresh
  refine ⟨fun r mem => ⟨links.joins r mem, ?_⟩, links.once, fun acyclic => ?_⟩
  · have unwritten : r ∉ w0.store.relations := by
      rw [init.1]
      exact List.not_mem_nil
    obtain ⟨ls1, l, ls2, u, u', rfl, before, st, -, absent, written⟩ :=
      run.turn (P := fun u => r ∈ u.store.relations) unwritten mem
    refine ⟨ls1, l, ls2, u, u', rfl, before, st, absent, written, ?_⟩
    have new := fresh ls1 l ls2 u u' rfl before st
    obtain ⟨conserved, -⟩ := linksOk_of_run init before fresh.initial
    cases st
    obtain ⟨-, added, relations, sound⟩ := Correlator.step_links conserved new
    rw [relations] at written
    obtain old | added := mem_addLinks written
    · exact absurd old absent
    · exact (sound r added).2
  · let serviceOf (id : String) : String :=
      (w.store.incidents.get? id).elim "" fun s => s.incident.service
    refine acyclic.of_map serviceOf ?_
    intro id other linked
    obtain ⟨r, mem, pair⟩ := List.mem_map.mp linked
    obtain ⟨a, b, found_a, found_b, -, -, along⟩ := links.joins r mem
    cases pair
    unfold DependsOn
    dsimp only [serviceOf]
    rw [found_a, found_b]
    exact along

/-- An anomaly of a service, and one of a service that depends on it. -/
def adjacentAnomalies : List CorrelatorCall :=
  [.process (anomalyOf "payments-service" "evt-1" 0) fun _ => { token := "1" },
    .process (anomalyOf "orders-service" "evt-2" 20) fun _ => { token := "2" }]

/-- The relation of that run. -/
lemma adjacentAnomalies_state : ((correlator {}).exec {} adjacentAnomalies).map (fun w =>
    w.store.relations.map (·.pair)) = some [("inc_2", "inc_1")] := by
  decide +kernel

/-- In that run the incident of the dependent service is linked to the one it depends on. -/
theorem links_sound_adjacent : ∃ w, (correlator {}).Run {} adjacentAnomalies w ∧
    w.store.relations.map (·.pair) = [("inc_2", "inc_1")] ∧
    ∀ r ∈ w.store.relations, Joins {} w.store.incidents r := by
  obtain ⟨w, run, pairs⟩ := Option.map_eq_some_iff.mp adjacentAnomalies_state
  have r := Machine.run_iff_exec.mpr run
  have fresh : (correlator {}).EachStep FreshIds {} adjacentAnomalies := by
    unfold adjacentAnomalies
    rw [Machine.eachStep_cons rfl, Machine.eachStep_cons rfl]
    refine ⟨?_, ?_, ?_⟩
    · rintro _ _ ⟨⟩ _
      rfl
    · rintro _ _ ⟨⟩ _
      dsimp only
      decide +kernel
    · intro ls1 l ls2 u u' e
      exact absurd e.symm (by simp)
  exact ⟨w, r, pairs, fun rel mem => ((links_sound {} ⟨rfl, rfl⟩ r fresh).1 rel mem).1⟩

end IncidentCorrelator

end SentinelOps
