import SentinelOps.IncidentCorrelator.Correlation
import SentinelOps.Lib.Fallible

/-!
# Batch correlation over the dependency graph

`findRelatedIncidents` looks from one incident at all others; `correlateIncidents` groups the
incidents by service and follows the dependencies of each. `correlateIncidents_agrees_iff`: where the
first one returns for every incident, the second one returns the same pairs, each from the dependent
incident to its dependency, exactly when no incident overlaps itself along a dependency of a service
on itself.
-/

namespace SentinelOps.IncidentCorrelator

/-- The services that each service depends on. -/
abbrev DependencyGraph := Dict String (List String)

/-- `SERVICE_DEPENDENCY_GRAPH`. -/
def serviceDependencyGraph : DependencyGraph :=
  .ofList [("orders-service", ["payments-service", "inventory-service"])]

/-- `_graph`. -/
def graphOf (graph : Option DependencyGraph) : DependencyGraph := graph.getD serviceDependencyGraph

/-- `IncidentCorrelation`. -/
structure IncidentCorrelation where
  incidentId : String
  relatedIncidentId : String
  relationType : String
  reason : String
  deriving DecidableEq

/-- `_order_edge`. -/
def orderEdge (incident other : Incident) (graph : DependencyGraph) : Incident × Incident :=
  if other.service ∈ dependenciesOf incident.service graph then (incident, other)
  else (other, incident)

/-- The test of `find_related_incidents` on another incident. -/
def isRelated (incident : Incident) (timeWindowSeconds : PyFloat) (neighbours : List String)
    (other : Incident) : Except Error (Option String) := do
  if other.id ≠ incident.id ∧ other.service ∈ neighbours ∧
      other.environment = incident.environment then
    if ← incidentsOverlap incident other timeWindowSeconds then return some other.id
    else return none
  else return none

/-- `find_related_incidents`. -/
def findRelatedIncidents (incident : Incident) (incidents : List Incident)
    (timeWindowSeconds : PyFloat) (graph : Option DependencyGraph := none) :
    Except Error (List String) := do
  let neighbours := relatedServices incident.service (graphOf graph)
  if neighbours = [] then return []
  let found ← incidents.mapM (isRelated incident timeWindowSeconds neighbours)
  return found.filterMap id

/-- `by_service`. -/
def byService (incidents : List Incident) : Dict String (List Incident) :=
  incidents.foldl (fun d inc => d.set inc.service ((d.get? inc.service).getD [] ++ [inc])) .empty

/-- The pairs that the three nested loops of `correlate_incidents` look at. -/
def dependencyPairs (incidents : List Incident) (graph : DependencyGraph) :
    List (Incident × Incident) :=
  let groups := byService incidents
  groups.values.flatten.flatMap fun inc =>
    (dependenciesOf inc.service graph).flatMap fun depService =>
      ((groups.get? depService).getD []).map fun other => (inc, other)

/-- The link between two incidents. -/
def correlationOf (timeWindowSeconds : PyFloat) (dependent dependency : Incident) :
    IncidentCorrelation where
  incidentId := dependent.id
  relatedIncidentId := dependency.id
  relationType := "dependency"
  reason := s!"{dependent.service} depends on {dependency.service}; "
    ++ s!"both had active incidents within {timeWindowSeconds.fixed 0}s"

/-- The key of a link. -/
def IncidentCorrelation.key (c : IncidentCorrelation) : String × String :=
  (c.incidentId, c.relatedIncidentId)

/-- The body of the loops: the keys seen and the links found so far, after one more pair. -/
def correlatePair (timeWindowSeconds : PyFloat) (graph : DependencyGraph)
    (acc : List (String × String) × List IncidentCorrelation) (pair : Incident × Incident) :
    Except Error (List (String × String) × List IncidentCorrelation) := do
  if pair.2.environment ≠ pair.1.environment then return acc
  if !(← incidentsOverlap pair.1 pair.2 timeWindowSeconds) then return acc
  let (dependent, dependency) := orderEdge pair.1 pair.2 graph
  if (dependent.id, dependency.id) ∈ acc.1 then return acc
  return (acc.1 ++ [(dependent.id, dependency.id)],
    acc.2 ++ [correlationOf timeWindowSeconds dependent dependency])

/-- The order of the keys of links, that of tuples of strings. -/
def keyLe (a b : IncidentCorrelation) : Prop :=
  a.incidentId ≠ b.incidentId ∧ Py.strLe a.incidentId b.incidentId = true ∨
    a.incidentId = b.incidentId ∧ Py.strLe a.relatedIncidentId b.relatedIncidentId = true

instance : DecidableRel keyLe := fun _ _ => inferInstanceAs (Decidable (_ ∨ _))

/-- `correlate_incidents`. -/
def correlateIncidents (incidents : List Incident) (timeWindowSeconds : PyFloat)
    (graph : Option DependencyGraph := none) : Except Error (List IncidentCorrelation) := do
  let (_, links) ← (dependencyPairs incidents (graphOf graph)).foldlM
    (correlatePair timeWindowSeconds (graphOf graph)) ([], [])
  return links.insertionSort keyLe

variable {incidents : List Incident} {w : PyFloat} {graph : DependencyGraph} {x y : Incident}

/-- The incidents of a group are those of the service, in their order. -/
lemma get?_byService {service : String} :
    ((byService incidents).get? service).getD [] =
      incidents.filter fun inc => inc.service = service := by
  induction incidents using List.reverseRecOn with
  | nil => rfl
  | append_singleton incidents inc ih =>
    have last : byService (incidents ++ [inc]) = (byService incidents).set inc.service
        (((byService incidents).get? inc.service).getD [] ++ [inc]) := by
      unfold byService
      rw [List.foldl_append]
      rfl
    rw [last, List.filter_append, Dict.get?_set]
    by_cases own : service = inc.service
    · subst own
      simp [ih]
    · simp [own, Ne.symm own, ih]

/-- The groups hold every incident. -/
lemma mem_groups : x ∈ (byService incidents).values.flatten ↔ x ∈ incidents := by
  rw [List.mem_flatten]
  constructor
  · rintro ⟨group, member, there⟩
    obtain ⟨service, found⟩ := Dict.mem_values_iff.mp member
    have own := @get?_byService incidents service
    rw [found, Option.getD_some] at own
    rw [own] at there
    exact (List.mem_filter.mp there).1
  · intro member
    have own := @get?_byService incidents x.service
    have there : x ∈ ((byService incidents).get? x.service).getD [] := by
      rw [own]
      simpa using member
    cases found : (byService incidents).get? x.service with
    | none => simp [found] at there
    | some group =>
      rw [found] at there
      exact ⟨group, Dict.mem_values_iff.mpr ⟨_, found⟩, there⟩

/-- The loops look at every pair along a dependency. -/
lemma mem_dependencyPairs : (x, y) ∈ dependencyPairs incidents graph ↔
    x ∈ incidents ∧ y ∈ incidents ∧ y.service ∈ dependenciesOf x.service graph := by
  unfold dependencyPairs
  simp only [List.mem_flatMap, mem_groups, List.mem_map, get?_byService, List.mem_filter,
    decide_eq_true_eq, Prod.mk.injEq]
  constructor
  · rintro ⟨x', inX, service, dependency, y', ⟨inY, own⟩, rfl, rfl⟩
    rw [own]
    exact ⟨inX, inY, dependency⟩
  · rintro ⟨inX, inY, dependency⟩
    exact ⟨x, inX, y.service, dependency, y, ⟨inY, rfl⟩, rfl, rfl⟩

/-- What the comparison of two incidents returns. -/
lemma incidentsOverlap_ok {r} (h : incidentsOverlap x y w = .ok r) :
    ∃ slack, timedelta w = .ok slack ∧
      (r = true ↔ x.startedAt ≤ y.lastEvidenceAt + slack ∧ y.startedAt ≤ x.lastEvidenceAt + slack) := by
  obtain ⟨slack, converted, h⟩ := Except.bind_eq_ok.mp h
  refine ⟨slack, converted, ?_⟩
  obtain ⟨untilY, added, h⟩ := Except.bind_eq_ok.mp h
  obtain ⟨_, _, rest⟩ := Except.bind_eq_ok.mp added
  cases rest
  split at h
  · rename_i first
    obtain ⟨untilX, added, h⟩ := Except.bind_eq_ok.mp h
    obtain ⟨_, _, rest⟩ := Except.bind_eq_ok.mp added
    cases rest
    cases h
    simp [first]
  · rename_i first
    cases h
    simp [first]

/-- The comparison is symmetric, where it returns both ways. -/
lemma incidentsOverlap_symm {r r'} (h : incidentsOverlap x y w = .ok r)
    (h' : incidentsOverlap y x w = .ok r') : r = r' := by
  obtain ⟨slack, converted, iff⟩ := incidentsOverlap_ok h
  obtain ⟨slack', converted', iff'⟩ := incidentsOverlap_ok h'
  cases converted.symm.trans converted'
  rw [Bool.eq_iff_iff, iff, iff', and_comm]

/-- Two incidents of one environment that overlap. -/
def Concurrent (w : PyFloat) (x y : Incident) : Prop :=
  y.environment = x.environment ∧ incidentsOverlap x y w = .ok true

/-- What the loops have collected after some of the pairs. -/
structure Collected (w : PyFloat) (done : List (Incident × Incident))
    (acc : List (String × String) × List IncidentCorrelation) : Prop where
  seen : acc.1 = acc.2.map (·.key)
  distinct : acc.1.Nodup
  found : ∀ l ∈ acc.2, ∃ p ∈ done, Concurrent w p.1 p.2 ∧ l = correlationOf w p.1 p.2
  complete : ∀ p ∈ done, Concurrent w p.1 p.2 → (p.1.id, p.2.id) ∈ acc.1
  compared : ∀ p ∈ done, p.2.environment = p.1.environment →
    ∃ r, incidentsOverlap p.1 p.2 w = .ok r

/-- What one more pair along a dependency adds. -/
lemma correlatePair_ok {acc acc'} (dependency : y.service ∈ dependenciesOf x.service graph)
    (h : correlatePair w graph acc (x, y) = .ok acc') :
    (y.environment = x.environment → ∃ r, incidentsOverlap x y w = .ok r) ∧
    ((acc' = acc ∧ (Concurrent w x y → (x.id, y.id) ∈ acc.1)) ∨
      (Concurrent w x y ∧ (x.id, y.id) ∉ acc.1 ∧
        acc' = (acc.1 ++ [(x.id, y.id)], acc.2 ++ [correlationOf w x y]))) := by
  have edge : orderEdge x y graph = (x, y) := if_pos dependency
  unfold correlatePair at h
  dsimp only at h
  split at h
  · rename_i elsewhere
    cases h
    exact ⟨fun same => absurd same elsewhere, .inl ⟨rfl, fun both => absurd both.1 elsewhere⟩⟩
  · rename_i same
    obtain ⟨r, compared, h⟩ := Except.bind_eq_ok.mp h
    refine ⟨fun _ => ⟨r, compared⟩, ?_⟩
    cases r with
    | false =>
      cases h
      refine .inl ⟨rfl, ?_⟩
      rintro ⟨_, overlap⟩
      cases compared.symm.trans overlap
    | true =>
      simp only [Bool.not_true, Bool.false_eq_true, if_false, edge] at h
      split at h
      · rename_i known
        cases h
        exact .inl ⟨rfl, fun _ => known⟩
      · rename_i new
        cases h
        exact .inr ⟨⟨not_not.mp same, compared⟩, new, rfl⟩

/-- The loops go on collecting. -/
lemma Collected.pair {done acc acc'} (h : Collected w done acc)
    (dependency : y.service ∈ dependenciesOf x.service graph)
    (st : correlatePair w graph acc (x, y) = .ok acc') : Collected w (done ++ [(x, y)]) acc' := by
  obtain ⟨compared, cases'⟩ := correlatePair_ok dependency st
  have compares : ∀ p ∈ done ++ [(x, y)], p.2.environment = p.1.environment →
      ∃ r, incidentsOverlap p.1 p.2 w = .ok r := by
    intro p member
    obtain old | new := List.mem_append.mp member
    · exact h.compared p old
    · cases List.mem_singleton.mp new
      exact compared
  rcases cases' with ⟨rfl, known⟩ | ⟨both, new, rfl⟩
  · refine ⟨h.seen, h.distinct, ?_, ?_, compares⟩
    · intro l member
      obtain ⟨p, there, linked⟩ := h.found l member
      exact ⟨p, List.mem_append_left _ there, linked⟩
    · intro p member linked
      obtain old | new := List.mem_append.mp member
      · exact h.complete p old linked
      · cases List.mem_singleton.mp new
        exact known linked
  · refine ⟨?_, ?_, ?_, ?_, compares⟩
    · rw [List.map_append, ← h.seen]
      rfl
    · rw [List.nodup_append]
      refine ⟨h.distinct, List.nodup_singleton _, ?_⟩
      intro k old k' last same
      rw [List.mem_singleton.mp last] at same
      exact new (same ▸ old)
    · intro l member
      obtain old | last := List.mem_append.mp member
      · obtain ⟨p, there, linked⟩ := h.found l old
        exact ⟨p, List.mem_append_left _ there, linked⟩
      · cases List.mem_singleton.mp last
        exact ⟨(x, y), by simp, both, rfl⟩
    · intro p member linked
      obtain old | last := List.mem_append.mp member
      · exact List.mem_append_left _ (h.complete p old linked)
      · cases List.mem_singleton.mp last
        simp

/-- What the loops have collected at their end. -/
lemma collected {pairs acc} (along : ∀ p ∈ pairs, p.2.service ∈ dependenciesOf p.1.service graph)
    (h : pairs.foldlM (correlatePair w graph) ([], []) = .ok acc) : Collected w pairs acc := by
  induction pairs using List.reverseRecOn generalizing acc with
  | nil =>
    cases h
    constructor <;> simp
  | append_singleton pairs p ih =>
    rw [List.foldlM_append] at h
    obtain ⟨acc', before, h⟩ := Except.bind_eq_ok.mp h
    rw [List.foldlM_cons] at h
    obtain ⟨acc'', last, h⟩ := Except.bind_eq_ok.mp h
    cases h
    obtain ⟨x, y⟩ := p
    exact (ih (fun p member => along p (List.mem_append_left _ member)) before).pair
      (along (x, y) (by simp)) last

/-- The loops return when every comparison they need does. -/
lemma foldlM_correlatePair {pairs : List (Incident × Incident)} {acc}
    (compared : ∀ p ∈ pairs, p.2.environment = p.1.environment →
      ∃ r, incidentsOverlap p.1 p.2 w = .ok r) :
    ∃ acc', pairs.foldlM (correlatePair w graph) acc = .ok acc' := by
  induction pairs generalizing acc with
  | nil => exact ⟨acc, rfl⟩
  | cons p pairs ih =>
    have first : ∃ acc', correlatePair w graph acc p = .ok acc' := by
      unfold correlatePair
      split
      · exact ⟨_, rfl⟩
      · rename_i same
        obtain ⟨r, overlap⟩ := compared p List.mem_cons_self (not_not.mp same)
        rw [overlap, Except.ok_bind]
        split
        · exact ⟨_, rfl⟩
        · dsimp only
          split <;> exact ⟨_, rfl⟩
    obtain ⟨acc', first⟩ := first
    rw [List.foldlM_cons, first, Except.ok_bind]
    exact ih fun p member => compared p (List.mem_cons_of_mem _ member)

/-- Two incidents of adjacent services. -/
def Adjacent (graph : DependencyGraph) (x y : Incident) : Prop :=
  y.service ∈ dependenciesOf x.service graph ∨ x.service ∈ dependenciesOf y.service graph

/-- The services adjacent to a service. -/
lemma mem_relatedServices : y.service ∈ relatedServices x.service graph ↔ Adjacent graph x y := by
  have dependents : y.service ∈ dependentsOf x.service graph ↔
      x.service ∈ dependenciesOf y.service graph := by
    unfold dependentsOf dependenciesOf
    rw [Py.mem_sorted, List.mem_map]
    constructor
    · rintro ⟨e, member, own⟩
      obtain ⟨there, depends⟩ := List.mem_filter.mp member
      have found : graph.get? y.service = some e.2 := by
        rw [← own]
        exact Dict.get?_eq_some_iff.mpr there
      rw [found]
      simpa using depends
    · intro depends
      cases found : graph.get? y.service with
      | none => simp [found] at depends
      | some deps =>
        rw [found] at depends
        exact ⟨(y.service, deps), List.mem_filter.mpr
          ⟨Dict.get?_eq_some_iff.mp found, by simpa using depends⟩, rfl⟩
  unfold relatedServices Adjacent
  rw [Py.mem_sortedSet, List.mem_append, dependents]

/-- What the test of another incident compares and returns. -/
lemma isRelated_ok {r} (h : isRelated x w (relatedServices x.service graph) y = .ok r) :
    (y.id ≠ x.id → Adjacent graph x y → y.environment = x.environment →
      ∃ b, incidentsOverlap x y w = .ok b) ∧
    ∀ i, r = some i ↔ y.id = i ∧ y.id ≠ x.id ∧ Adjacent graph x y ∧ Concurrent w x y := by
  unfold isRelated at h
  split at h
  · rename_i candidate
    rw [mem_relatedServices] at candidate
    obtain ⟨b, compared, h⟩ := Except.bind_eq_ok.mp h
    refine ⟨fun _ _ _ => ⟨b, compared⟩, fun i => ?_⟩
    unfold Concurrent
    cases b with
    | true =>
      cases h
      simp [candidate, compared]
    | false =>
      cases h
      simp [compared]
  · rename_i other
    rw [mem_relatedServices] at other
    cases h
    refine ⟨fun own adjacent same => absurd ⟨own, adjacent, same⟩ other, fun i => ?_⟩
    simp only [reduceCtorEq, false_iff]
    rintro ⟨_, own, adjacent, same, _⟩
    exact other ⟨own, adjacent, same⟩

/-- What `find_related_incidents` compares and returns. -/
lemma findRelatedIncidents_ok {g : Option DependencyGraph} {ids}
    (h : findRelatedIncidents x incidents w g = .ok ids) :
    (∀ y ∈ incidents, y.id ≠ x.id → Adjacent (graphOf g) x y → y.environment = x.environment →
      ∃ r, incidentsOverlap x y w = .ok r) ∧
    ∀ i, i ∈ ids ↔ ∃ y ∈ incidents, y.id = i ∧ y.id ≠ x.id ∧ Adjacent (graphOf g) x y ∧
      Concurrent w x y := by
  unfold findRelatedIncidents at h
  dsimp only at h
  split at h
  · rename_i alone
    cases h
    have none_adjacent (y : Incident) : ¬ Adjacent (graphOf g) x y := by
      rw [← mem_relatedServices, alone]
      exact List.not_mem_nil
    simp [none_adjacent]
  · obtain ⟨rs, traversed, h⟩ := Except.bind_eq_ok.mp h
    cases h
    obtain ⟨total, found⟩ := mapM_found traversed
    constructor
    · intro y member own adjacent same
      obtain ⟨r, e⟩ := total y member
      exact (isRelated_ok e).1 own adjacent same
    · intro i
      rw [found]
      constructor
      · rintro ⟨y, member, e⟩
        exact ⟨y, member, ((isRelated_ok e).2 i).mp rfl⟩
      · rintro ⟨y, member, related⟩
        obtain ⟨r, e⟩ := total y member
        rw [((isRelated_ok e).2 i).mpr related] at e
        exact ⟨y, member, e⟩

/-- `find_related_incidents` returns one incident for another. -/
def FoundBy (incidents : List Incident) (w : PyFloat) (g : Option DependencyGraph)
    (x y : Incident) : Prop :=
  ∃ ids, findRelatedIncidents x incidents w g = .ok ids ∧ y.id ∈ ids

/-- The links of a batch are the pairs that are found from its incidents, each from the dependent
incident to its dependency, without self-links and duplicates, and the same for every order of the
incidents. -/
structure Agrees (incidents : List Incident) (w : PyFloat) (g : Option DependencyGraph)
    (links : List IncidentCorrelation) : Prop where
  edges : ∀ x ∈ incidents, ∀ y ∈ incidents, (x.id, y.id) ∈ links.map (·.key) ↔
    FoundBy incidents w g x y ∧ y.service ∈ dependenciesOf x.service (graphOf g)
  pairs : ∀ x ∈ incidents, ∀ y ∈ incidents, FoundBy incidents w g x y →
    (x.id, y.id) ∈ links.map (·.key) ∨ (y.id, x.id) ∈ links.map (·.key)
  known : ∀ l ∈ links, ∃ x ∈ incidents, ∃ y ∈ incidents, l.key = (x.id, y.id)
  noSelf : ∀ l ∈ links, l.incidentId ≠ l.relatedIncidentId
  noDuplicate : (links.map (·.key)).Nodup
  anyOrder : ∀ incidents' : List Incident, incidents'.Perm incidents →
    correlateIncidents incidents' w g = .ok links

instance : Std.Total keyLe where
  total a b := by
    unfold keyLe
    by_cases same : a.incidentId = b.incidentId
    · have := Bool.or_eq_true _ _ ▸ Py.strLe_total a.relatedIncidentId b.relatedIncidentId
      simpa [same] using this
    · have := Bool.or_eq_true _ _ ▸ Py.strLe_total a.incidentId b.incidentId
      simpa [same, Ne.symm same] using this

instance : IsTrans IncidentCorrelation keyLe where
  trans a b c := by
    rintro (⟨ne, le⟩ | ⟨eq, le⟩) (⟨ne', le'⟩ | ⟨eq', le'⟩)
    · refine .inl ⟨fun same => ?_, Py.strLe_trans _ _ _ le le'⟩
      rw [same] at le
      exact ne' (Py.strLe_antisymm le' le)
    · exact .inl ⟨eq' ▸ ne, eq' ▸ le⟩
    · exact .inl ⟨eq.symm ▸ ne', eq.symm ▸ le'⟩
    · exact .inr ⟨eq.trans eq', Py.strLe_trans _ _ _ le le'⟩

/-- The order of the links is antisymmetric on their keys. -/
lemma keyLe_antisymm {a b : IncidentCorrelation} (h : keyLe a b) (h' : keyLe b a) :
    a.key = b.key := by
  obtain ⟨ne, le⟩ | ⟨eq, le⟩ := h
  · obtain ⟨_, le'⟩ | ⟨eq', _⟩ := h'
    · exact absurd (Py.strLe_antisymm le le') ne
    · exact absurd eq'.symm ne
  · obtain ⟨ne', _⟩ | ⟨_, le'⟩ := h'
    · exact absurd eq.symm ne'
    · exact Prod.ext eq (Py.strLe_antisymm le le')

/-- The incidents of a collection are known by their ids. -/
lemma eq_of_id (distinct : (incidents.map (·.id)).Nodup) (inX : x ∈ incidents)
    (inY : y ∈ incidents) (same : x.id = y.id) : x = y :=
  List.inj_on_of_nodup_map distinct inX inY same

/-- A pair of the collection that the loops link. -/
structure Linked (incidents : List Incident) (w : PyFloat) (graph : DependencyGraph)
    (x y : Incident) : Prop where
  dependent : x ∈ incidents
  dependency : y ∈ incidents
  edge : y.service ∈ dependenciesOf x.service graph
  concurrent : Concurrent w x y

/-- What a batch returns. -/
structure Batch (incidents : List Incident) (w : PyFloat) (graph : DependencyGraph)
    (links : List IncidentCorrelation) : Prop where
  sorted : links.Pairwise keyLe
  noDuplicate : (links.map (·.key)).Nodup
  mem : ∀ l, l ∈ links ↔ ∃ x y, Linked incidents w graph x y ∧ l = correlationOf w x y
  compared : ∀ x ∈ incidents, ∀ y ∈ incidents, y.service ∈ dependenciesOf x.service graph →
    y.environment = x.environment → ∃ r, incidentsOverlap x y w = .ok r

/-- A batch that returns, returns the links of its pairs in the order of their keys. -/
lemma correlateIncidents_ok {g links} (distinct : (incidents.map (·.id)).Nodup)
    (h : correlateIncidents incidents w g = .ok links) : Batch incidents w (graphOf g) links := by
  obtain ⟨⟨seen, found⟩, looped, h⟩ := Except.bind_eq_ok.mp h
  cases h
  have along : ∀ p ∈ dependencyPairs incidents (graphOf g),
      p.2.service ∈ dependenciesOf p.1.service (graphOf g) :=
    fun p member => (mem_dependencyPairs.mp member).2.2
  have all := collected along looped
  have perm := List.perm_insertionSort keyLe found
  refine ⟨List.pairwise_insertionSort keyLe found, ?_, ?_, ?_⟩
  · rw [(perm.map _).nodup_iff, ← all.seen]
    exact all.distinct
  · intro l
    rw [perm.mem_iff]
    constructor
    · intro member
      obtain ⟨⟨x, y⟩, pair, both, rfl⟩ := all.found l member
      obtain ⟨inX, inY, edge⟩ := mem_dependencyPairs.mp pair
      exact ⟨x, y, ⟨inX, inY, edge, both⟩, rfl⟩
    · rintro ⟨x, y, linked, rfl⟩
      have pair := mem_dependencyPairs.mpr ⟨linked.dependent, linked.dependency, linked.edge⟩
      have key : (x.id, y.id) ∈ found.map (·.key) := all.seen ▸ all.complete _ pair linked.concurrent
      obtain ⟨l, member, own⟩ := List.mem_map.mp key
      obtain ⟨⟨x', y'⟩, pair', _, rfl⟩ := all.found l member
      obtain ⟨inX', inY', _⟩ := mem_dependencyPairs.mp pair'
      obtain ⟨sameX, sameY⟩ := Prod.mk.inj own
      cases eq_of_id distinct inX' linked.dependent sameX
      cases eq_of_id distinct inY' linked.dependency sameY
      exact member
  · intro x inX y inY edge same
    exact all.compared (x, y) (mem_dependencyPairs.mpr ⟨inX, inY, edge⟩) same

/-- A batch returns when the comparisons along its dependencies do. -/
lemma correlateIncidents_returns {g} (compared : ∀ x ∈ incidents, ∀ y ∈ incidents,
    y.service ∈ dependenciesOf x.service (graphOf g) → y.environment = x.environment →
      ∃ r, incidentsOverlap x y w = .ok r) :
    ∃ links, correlateIncidents incidents w g = .ok links := by
  have looped : ∃ acc, (dependencyPairs incidents (graphOf g)).foldlM
      (correlatePair w (graphOf g)) ([], []) = .ok acc := by
    apply foldlM_correlatePair
    rintro ⟨x, y⟩ member same
    obtain ⟨inX, inY, edge⟩ := mem_dependencyPairs.mp member
    exact compared x inX y inY edge same
  obtain ⟨⟨seen, found⟩, looped⟩ := looped
  refine ⟨found.insertionSort keyLe, ?_⟩
  unfold correlateIncidents
  rw [looped, Except.ok_bind]
  rfl

/-- The keys of a batch. -/
lemma Batch.mem_keys {links} (distinct : (incidents.map (·.id)).Nodup)
    (h : Batch incidents w graph links) (inX : x ∈ incidents) (inY : y ∈ incidents) :
    (x.id, y.id) ∈ links.map (·.key) ↔ Linked incidents w graph x y := by
  rw [List.mem_map]
  constructor
  · rintro ⟨l, member, own⟩
    obtain ⟨x', y', linked, rfl⟩ := (h.mem l).mp member
    obtain ⟨sameX, sameY⟩ := Prod.mk.inj own
    cases eq_of_id distinct linked.dependent inX sameX
    cases eq_of_id distinct linked.dependency inY sameY
    exact linked
  · intro linked
    exact ⟨correlationOf w x y, (h.mem _).mpr ⟨x, y, linked, rfl⟩, rfl⟩

/-- Two orders of one collection give the same links. -/
lemma Batch.unique {incidents' links links'} (perm : incidents'.Perm incidents)
    (h : Batch incidents w graph links) (h' : Batch incidents' w graph links') :
    links' = links := by
  have same : ∀ l, l ∈ links' ↔ l ∈ links := by
    intro l
    rw [h.mem, h'.mem]
    constructor
    · rintro ⟨x, y, ⟨inX, inY, edge, both⟩, e⟩
      exact ⟨x, y, ⟨perm.mem_iff.mp inX, perm.mem_iff.mp inY, edge, both⟩, e⟩
    · rintro ⟨x, y, ⟨inX, inY, edge, both⟩, e⟩
      exact ⟨x, y, ⟨perm.mem_iff.mpr inX, perm.mem_iff.mpr inY, edge, both⟩, e⟩
  have permuted : links'.Perm links :=
    (List.perm_ext_iff_of_nodup (List.Nodup.of_map _ h'.noDuplicate)
      (List.Nodup.of_map _ h.noDuplicate)).mpr same
  refine permuted.eq_of_pairwise ?_ h'.sorted h.sorted
  intro a b inA inB le le'
  -- both are links of the batch, so their keys tell them apart
  exact List.inj_on_of_nodup_map h.noDuplicate ((same a).mp inA) inB (keyLe_antisymm le le')

/-- What `find_related_incidents` finds, where it returns. -/
lemma foundBy_iff {g} (distinct : (incidents.map (·.id)).Nodup)
    (finds : ∃ ids, findRelatedIncidents x incidents w g = .ok ids) (inY : y ∈ incidents) :
    FoundBy incidents w g x y ↔ y.id ≠ x.id ∧ Adjacent (graphOf g) x y ∧ Concurrent w x y := by
  obtain ⟨ids, returned⟩ := finds
  have members := (findRelatedIncidents_ok returned).2 y.id
  constructor
  · rintro ⟨ids', returned', found⟩
    cases returned.symm.trans returned'
    obtain ⟨y', inY', same, related⟩ := members.mp found
    cases eq_of_id distinct inY' inY same
    exact related
  · intro related
    exact ⟨ids, returned, members.mpr ⟨y, inY, rfl, related⟩⟩

/-- Where every incident finds its related ones, the batch agrees with them exactly when no incident
overlaps itself along a dependency of its service on itself. -/
theorem correlateIncidents_agrees_iff {g} (distinct : (incidents.map (·.id)).Nodup)
    (finds : ∀ x ∈ incidents, ∃ ids, findRelatedIncidents x incidents w g = .ok ids) :
    (∃ links, correlateIncidents incidents w g = .ok links ∧ Agrees incidents w g links) ↔
      ∀ x ∈ incidents, x.service ∈ dependenciesOf x.service (graphOf g) →
        incidentsOverlap x x w = .ok false := by
  constructor
  · rintro ⟨links, returned, agrees⟩ x member itself
    have batch := correlateIncidents_ok distinct returned
    obtain ⟨r, compared⟩ := batch.compared x member x member itself rfl
    cases r with
    | false => exact compared
    | true =>
      have link : correlationOf w x x ∈ links :=
        (batch.mem _).mpr ⟨x, x, ⟨member, member, itself, rfl, compared⟩, rfl⟩
      exact absurd rfl (agrees.noSelf _ link)
  · intro apart
    have linked_ne {x y} (linked : Linked incidents w (graphOf g) x y) : y.id ≠ x.id := by
      intro same
      cases eq_of_id distinct linked.dependency linked.dependent same
      have none := apart _ linked.dependent linked.edge
      cases none.symm.trans linked.concurrent.2
    have compared : ∀ x ∈ incidents, ∀ y ∈ incidents,
        y.service ∈ dependenciesOf x.service (graphOf g) → y.environment = x.environment →
          ∃ r, incidentsOverlap x y w = .ok r := by
      intro x inX y inY edge same
      -- an incident is never searched for itself, but the batch compares it where its edge is a loop
      by_cases own : y.id = x.id
      · cases eq_of_id distinct inY inX own
        exact ⟨false, apart _ inY edge⟩
      · obtain ⟨ids, returned⟩ := finds x inX
        exact (findRelatedIncidents_ok returned).1 y inY own (.inl edge) same
    obtain ⟨links, returned⟩ := correlateIncidents_returns compared
    have batch := correlateIncidents_ok distinct returned
    refine ⟨links, returned, ?_, ?_, ?_, ?_, batch.noDuplicate, ?_⟩
    · intro x inX y inY
      rw [batch.mem_keys distinct inX inY, foundBy_iff distinct (finds x inX) inY]
      constructor
      · intro linked
        exact ⟨⟨linked_ne linked, .inl linked.edge, linked.concurrent⟩, linked.edge⟩
      · rintro ⟨⟨_, _, both⟩, edge⟩
        exact ⟨inX, inY, edge, both⟩
    · intro x inX y inY found
      rw [batch.mem_keys distinct inX inY, batch.mem_keys distinct inY inX]
      obtain ⟨_, adjacent, both⟩ := (foundBy_iff distinct (finds x inX) inY).mp found
      rcases adjacent with edge | edge
      · exact .inl ⟨inX, inY, edge, both⟩
      · obtain ⟨r, back⟩ := compared y inY x inX edge both.1.symm
        refine .inr ⟨inY, inX, edge, both.1.symm, ?_⟩
        rw [back, ← incidentsOverlap_symm both.2 back]
    · intro l member
      obtain ⟨x, y, linked, rfl⟩ := (batch.mem l).mp member
      exact ⟨x, linked.dependent, y, linked.dependency, rfl⟩
    · intro l member itself
      obtain ⟨x, y, linked, rfl⟩ := (batch.mem l).mp member
      exact linked_ne linked itself.symm
    · intro incidents' perm
      obtain ⟨links', returned'⟩ := @correlateIncidents_returns incidents' w g fun x inX y inY =>
        compared x (perm.mem_iff.mp inX) y (perm.mem_iff.mp inY)
      have batch' := correlateIncidents_ok ((perm.map _).nodup_iff.mpr distinct) returned'
      rw [returned', batch.unique perm batch']

/-- An open incident of a service over an interval. -/
def incidentOver (id service : String) (startedAt lastEvidenceAt : Instant) : Incident where
  id := id
  correlationKey := service ++ ":production"
  service := service
  environment := "production"
  status := .open
  severity := .medium
  severityReasons := []
  title := "Elevated latency"
  anomalyCount := 1
  maxAnomalyScore := .fin 0
  maxErrorRate := .fin 0
  maxLatencyP95Ms := .fin 0
  detector := "isolation-forest"
  startedAt := startedAt
  lastEvidenceAt := lastEvidenceAt
  createdAt := startedAt
  updatedAt := lastEvidenceAt

/-- Two incidents, the second of a service that the first one's depends on. -/
def upstreamFailure : List Incident :=
  [incidentOver "i1" "orders-service" 0 60000000,
    incidentOver "i2" "payments-service" 30000000 90000000]

/-- The batch links them, as each finds the other. -/
theorem correlateIncidents_agrees_upstream :
    (∀ x ∈ upstreamFailure, ∃ y ∈ upstreamFailure,
        findRelatedIncidents x upstreamFailure (.fin 600) = .ok [y.id]) ∧
      ∃ links, correlateIncidents upstreamFailure (.fin 600) = .ok links ∧
        Agrees upstreamFailure (.fin 600) none links := by
  have distinct : (upstreamFailure.map (·.id)).Nodup := by decide
  have finds : ∀ x ∈ upstreamFailure, ∃ y ∈ upstreamFailure,
      findRelatedIncidents x upstreamFailure (.fin 600) = .ok [y.id] := by decide +kernel
  have apart : ∀ x ∈ upstreamFailure, x.service ∉ dependenciesOf x.service (graphOf none) := by
    decide +kernel
  refine ⟨finds, (correlateIncidents_agrees_iff distinct ?_).mpr ?_⟩
  · intro x member
    obtain ⟨y, _, found⟩ := finds x member
    exact ⟨_, found⟩
  · intro x member itself
    exact absurd itself (apart x member)

/-- An incident of a service that depends on itself is linked with itself, and is not among its own
related incidents. -/
theorem correlateIncidents_not_agrees :
    let itself := incidentOver "i1" "orders-service" 0 60000000
    let graph : DependencyGraph := .ofList [("orders-service", ["orders-service"])]
    findRelatedIncidents itself [itself] (.fin 600) (some graph) = .ok [] ∧
      (correlateIncidents [itself] (.fin 600) (some graph)).map (·.map (·.key)) =
        .ok [("i1", "i1")] ∧
      ¬ ∃ links, correlateIncidents [itself] (.fin 600) (some graph) = .ok links ∧
        Agrees [itself] (.fin 600) (some graph) links := by
  dsimp only
  have keys : (correlateIncidents [incidentOver "i1" "orders-service" 0 60000000] (.fin 600)
      (some (.ofList [("orders-service", ["orders-service"])]))).map (·.map (·.key)) =
      .ok [("i1", "i1")] := by decide +kernel
  refine ⟨by decide +kernel, keys, ?_⟩
  rintro ⟨links, returned, agrees⟩
  rw [returned] at keys
  have own : links.map (·.key) = [("i1", "i1")] := Except.ok.inj keys
  obtain ⟨l, member, e⟩ := List.mem_map.mp (own ▸ List.mem_singleton_self ("i1", "i1"))
  exact agrees.noSelf l member ((congrArg Prod.fst e).trans (congrArg Prod.snd e).symm)

end SentinelOps.IncidentCorrelator
