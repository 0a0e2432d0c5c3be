import Mathlib.Data.List.Nodup
import Mathlib.Data.List.Basic
import Mathlib.Data.List.Induction

/-!
# Insertion-ordered dictionaries

`Dict κ ν` is a finite map that remembers the order in which its keys were first written: assigning
to a key that is present replaces the value in place, assigning to a new key appends. A `Dict`
carries the proof that its keys are distinct, so an association list with a repeated key cannot be
built. `Dict.get?` and `Dict.set` are characterised by `get?_set_self`, `get?_set_ne` and the
membership lemma `mem_set`; callers use these and never the underlying list.
-/

namespace SentinelOps

/-- A finite map with its keys in the order of their first assignment. -/
structure Dict (κ : Type*) (ν : Type*) where
  entries : List (κ × ν)
  nodup : (entries.map Prod.fst).Nodup

namespace Dict

variable {κ ν : Type*} [DecidableEq κ]

/-- The dictionary without entries. -/
def empty : Dict κ ν := ⟨[], List.nodup_nil⟩

/-- The value stored under a key. -/
def lookup (k : κ) : List (κ × ν) → Option ν
  | [] => none
  | (k', v) :: es => if k' = k then some v else lookup k es

/-- Replace the value of a present key in place, or append the pair. -/
def assign (k : κ) (v : ν) : List (κ × ν) → List (κ × ν)
  | [] => [(k, v)]
  | (k', v') :: es => if k' = k then (k, v) :: es else (k', v') :: assign k v es

omit [DecidableEq κ] in
/-- Two dictionaries with the same entries are equal. -/
@[ext] lemma ext {d e : Dict κ ν} (h : d.entries = e.entries) : d = e := by
  cases d
  cases e
  cases h
  rfl

/-- The keys after an assignment. -/
lemma keys_assign {k : κ} {v : ν} {es : List (κ × ν)} :
    (assign k v es).map Prod.fst =
      if k ∈ es.map Prod.fst then es.map Prod.fst else es.map Prod.fst ++ [k] := by
  induction es with
  | nil => simp [assign]
  | cons e es ih =>
    obtain ⟨k', v'⟩ := e
    by_cases h : k' = k
    · simp [assign, h]
    · have h' : ¬ k = k' := fun e => h e.symm
      simp only [assign, h, if_false, List.map_cons, ih, List.mem_cons, h', false_or]
      split <;> simp

/-- Assignment keeps the keys distinct. -/
lemma nodup_assign {k : κ} {v : ν} {es : List (κ × ν)} (h : (es.map Prod.fst).Nodup) :
    ((assign k v es).map Prod.fst).Nodup := by
  rw [keys_assign]
  split
  · exact h
  · rename_i hk
    rw [List.nodup_append]
    refine ⟨h, List.nodup_singleton _, ?_⟩
    intro a ha b hb e
    rw [List.mem_singleton] at hb
    exact hk (hb ▸ e ▸ ha)

/-- `d[k]`, when the key is present. -/
def get? (d : Dict κ ν) (k : κ) : Option ν := lookup k d.entries

/-- `d[k] = v`. -/
def set (d : Dict κ ν) (k : κ) (v : ν) : Dict κ ν := ⟨assign k v d.entries, nodup_assign d.nodup⟩

/-- `d.values()`, in insertion order. -/
def values (d : Dict κ ν) : List ν := d.entries.map Prod.snd

/-- `d.keys()`, in insertion order. -/
def keys (d : Dict κ ν) : List κ := d.entries.map Prod.fst

/-- `k in d`. -/
def contains (d : Dict κ ν) (k : κ) : Bool := (d.get? k).isSome

/-- The dictionary a literal of pairs denotes; a later pair overwrites an earlier one. -/
def ofList (es : List (κ × ν)) : Dict κ ν := es.foldl (fun d e => d.set e.1 e.2) empty

/-- `{**d, **e}`. -/
def update (d : Dict κ ν) (es : List (κ × ν)) : Dict κ ν := es.foldl (fun d e => d.set e.1 e.2) d

omit [DecidableEq κ] in
/-- The dictionary with a function applied to every value. -/
def mapValues {μ : Type*} (f : ν → μ) (d : Dict κ ν) : Dict κ μ :=
  ⟨d.entries.map fun e => (e.1, f e.2), by simpa [Function.comp_def] using d.nodup⟩

@[simp] lemma get?_empty {k : κ} : (empty : Dict κ ν).get? k = none := rfl

@[simp] lemma entries_set {d : Dict κ ν} {k v} : (d.set k v).entries = assign k v d.entries := rfl

/-- Looking up the key just assigned. -/
lemma lookup_assign_self {k : κ} {v : ν} {es} : lookup k (assign k v es) = some v := by
  induction es with
  | nil => simp [assign, lookup]
  | cons e es ih =>
    by_cases h : e.1 = k
    · simp [assign, lookup, h]
    · simp [assign, lookup, h, ih]

/-- Looking up another key than the one assigned. -/
lemma lookup_assign_ne {k k' : κ} {v : ν} {es} (ne : k' ≠ k) :
    lookup k' (assign k v es) = lookup k' es := by
  induction es with
  | nil => simp [assign, lookup, ne.symm]
  | cons e es ih =>
    by_cases h : e.1 = k
    · simp [assign, lookup, h, ne.symm]
    · simp [assign, lookup, h, ih]

@[simp] lemma get?_set_self {d : Dict κ ν} {k v} : (d.set k v).get? k = some v :=
  lookup_assign_self

lemma get?_set_ne {d : Dict κ ν} {k k' v} (ne : k' ≠ k) : (d.set k v).get? k' = d.get? k' :=
  lookup_assign_ne ne

/-- Assigning twice to the same key. -/
lemma assign_assign {k : κ} {v w : ν} {es} : assign k w (assign k v es) = assign k w es := by
  induction es with
  | nil => simp [assign]
  | cons e es ih =>
    by_cases h : e.1 = k
    · simp [assign, h]
    · simp [assign, h, ih]

/-- The later of two assignments to a key remains. -/
@[simp] lemma set_set {d : Dict κ ν} {k v w} : (d.set k v).set k w = d.set k w :=
  ext assign_assign

/-- What a lookup after an assignment returns. -/
lemma get?_set {d : Dict κ ν} {k k' v} :
    (d.set k v).get? k' = if k' = k then some v else d.get? k' := by
  split
  · rename_i h
    rw [h, get?_set_self]
  · rename_i h
    exact get?_set_ne h

/-- A found value comes from an entry. -/
lemma mem_of_lookup {k : κ} {v : ν} {es} (h : lookup k es = some v) : (k, v) ∈ es := by
  induction es with
  | nil => cases h
  | cons e es ih =>
    by_cases hk : e.1 = k
    · simp only [lookup, hk, if_true, Option.some.injEq] at h
      simp [← hk, ← h]
    · simp only [lookup, hk, if_false] at h
      exact List.mem_cons_of_mem _ (ih h)

/-- With distinct keys, an entry is what a lookup of its key finds. -/
lemma lookup_of_mem {k : κ} {v : ν} {es} (nd : (es.map Prod.fst).Nodup) (h : (k, v) ∈ es) :
    lookup k es = some v := by
  induction es with
  | nil => cases h
  | cons e es ih =>
    rw [List.map_cons, List.nodup_cons] at nd
    rcases List.mem_cons.mp h with rfl | h
    · simp [lookup]
    · have hk : ¬ e.1 = k := fun e' => nd.1 (e' ▸ List.mem_map_of_mem (f := Prod.fst) h)
      simp only [lookup, hk, if_false]
      exact ih nd.2 h

/-- Lookup and membership agree. -/
lemma get?_eq_some_iff {d : Dict κ ν} {k v} : d.get? k = some v ↔ (k, v) ∈ d.entries :=
  ⟨mem_of_lookup, lookup_of_mem d.nodup⟩

/-- The values are the results of the lookups. -/
lemma mem_values_iff {d : Dict κ ν} {v} : v ∈ d.values ↔ ∃ k, d.get? k = some v := by
  simp [values, get?_eq_some_iff]

/-- A key without a value is not among the keys. -/
lemma get?_eq_none_iff {d : Dict κ ν} {k} : d.get? k = none ↔ k ∉ d.keys := by
  rw [Option.eq_none_iff_forall_ne_some]
  simp [keys, get?_eq_some_iff]

/-- The keys are those with a value. -/
lemma mem_keys_iff {d : Dict κ ν} {k} : k ∈ d.keys ↔ ∃ v, d.get? k = some v := by
  rw [← Option.isSome_iff_exists, Option.isSome_iff_ne_none, ne_eq, get?_eq_none_iff, not_not]

/-- The entries of a dictionary without repeated keys. -/
lemma get?_ofList {es : List (κ × ν)} {k v}
    (nd : (es.map Prod.fst).Nodup) : (ofList es).get? k = some v ↔ (k, v) ∈ es := by
  induction es using List.reverseRecOn with
  | nil => simp [ofList]
  | append_singleton es e ih =>
    have last : ofList (es ++ [e]) = (ofList es).set e.1 e.2 := by
      unfold ofList
      rw [List.foldl_append]
      rfl
    rw [List.map_append, List.nodup_append] at nd
    obtain ⟨nd, _, apart⟩ := nd
    rw [last, get?_set, List.mem_append, List.mem_singleton, ← ih nd]
    by_cases same : k = e.1
    · subst same
      have absent : (ofList es).get? e.1 ≠ some v := by
        intro there
        have key : e.1 ∈ es.map Prod.fst := List.mem_map.mpr ⟨_, (ih nd).mp there, rfl⟩
        exact apart e.1 key e.1 (by simp) rfl
      simp [absent, Prod.ext_iff, eq_comm]
    · simp [same, Prod.ext_iff]

omit [DecidableEq κ] in
/-- Dropping entries keeps the order of the keys. -/
lemma keys_filterMap_sublist {μ : Type*} {g : κ × ν → Option μ} {es : List (κ × ν)} :
    ((es.filterMap fun e => (g e).map (e.1, ·)).map Prod.fst).Sublist (es.map Prod.fst) := by
  induction es with
  | nil => exact List.Sublist.slnil
  | cons e es ih =>
    cases kept : g e with
    | none =>
      rw [List.filterMap_cons_none (by rw [kept, Option.map_none])]
      exact ih.cons _
    | some v =>
      rw [List.filterMap_cons_some (by rw [kept, Option.map_some])]
      exact ih.cons_cons _

/-- Assigning to an absent key appends the entry. -/
lemma assign_of_absent {k : κ} {v : ν} {es} (h : k ∉ es.map Prod.fst) :
    assign k v es = es ++ [(k, v)] := by
  induction es with
  | nil => rfl
  | cons e es ih =>
    rw [List.map_cons, List.mem_cons, not_or] at h
    have hk : ¬ e.1 = k := fun e' => h.1 e'.symm
    simp [assign, hk, ih h.2]

lemma entries_set_of_absent {d : Dict κ ν} {k v} (h : d.get? k = none) :
    (d.set k v).entries = d.entries ++ [(k, v)] :=
  assign_of_absent (get?_eq_none_iff.mp h)

/-- Assignment to a present key rewrites that entry and keeps the others. -/
lemma assign_of_present {k : κ} {v : ν} {es} (nd : (es.map Prod.fst).Nodup)
    (h : k ∈ es.map Prod.fst) :
    assign k v es = es.map fun e => if e.1 = k then (k, v) else e := by
  induction es with
  | nil => cases h
  | cons e es ih =>
    rw [List.map_cons, List.nodup_cons] at nd
    by_cases hk : e.1 = k
    · have rest : es.map (fun e => if e.1 = k then (k, v) else e) = es := by
        rw [List.map_congr_left, List.map_id]
        intro e' he'
        have : ¬ e'.1 = k := fun eq => nd.1 (hk ▸ eq ▸ List.mem_map_of_mem (f := Prod.fst) he')
        simp [this]
      simp [assign, hk, rest]
    · rw [List.map_cons, List.mem_cons] at h
      rcases h with h | h
      · exact absurd h.symm hk
      · simp [assign, hk, ih nd.2 h]

lemma entries_set_of_present {d : Dict κ ν} {k v v'} (h : d.get? k = some v') :
    (d.set k v).entries = d.entries.map fun e => if e.1 = k then (k, v) else e := by
  apply assign_of_present d.nodup
  exact List.mem_map_of_mem (f := Prod.fst) (get?_eq_some_iff.mp h)

/-- Replacing a value outside a filter by another one outside it leaves the filter alone. -/
lemma filter_values_set_of_not {d : Dict κ ν} {k v v' p} (h : d.get? k = some v')
    (hv' : p v' = false) (hv : p v = false) :
    (d.set k v).values.filter p = d.values.filter p := by
  obtain ⟨es, nd⟩ := d
  simp only [values, entries_set, get?] at h ⊢
  clear nd
  induction es with
  | nil => cases h
  | cons e es ih =>
    by_cases hk : e.1 = k
    · simp only [lookup, hk, if_true, Option.some.injEq] at h
      simp [assign, hk, hv, h, hv']
    · simp only [lookup, hk, if_false] at h
      have ih' := ih h
      simp [assign, hk, List.filter_cons, ih']

/-- Replacing the only value in a filter by another one in it. -/
lemma filter_values_set_of_singleton {d : Dict κ ν} {k v v' p} (h : d.get? k = some v')
    (hv' : p v' = true) (hv : p v = true) (only : d.values.filter p = [v']) :
    (d.set k v).values.filter p = [v] := by
  obtain ⟨es, nd⟩ := d
  simp only [values, entries_set, get?] at h only ⊢
  clear nd
  induction es with
  | nil => cases h
  | cons e es ih =>
    by_cases hk : e.1 = k
    · simp only [lookup, hk, if_true, Option.some.injEq] at h
      simp only [List.map_cons, h, List.filter_cons, hv', if_true, List.cons.injEq, true_and] at only
      simp [assign, hk, hv, only]
    · simp only [lookup, hk, if_false] at h
      simp only [assign, hk, if_false, List.map_cons, List.filter_cons] at only ⊢
      split
      · rename_i he
        simp only [he, if_true, List.cons.injEq] at only
        have mem : v' ∈ (es.map Prod.snd).filter p :=
          List.mem_filter.mpr ⟨List.mem_map_of_mem (f := Prod.snd) (mem_of_lookup h), hv'⟩
        rw [only.2] at mem
        cases mem
      · rename_i he
        simp only [he] at only
        exact ih h only

/-- Filtering the values after an assignment to an absent key. -/
lemma filter_values_set_of_absent {d : Dict κ ν} {k v p} (h : d.get? k = none) :
    (d.set k v).values.filter p = d.values.filter p ++ if p v = true then [v] else [] := by
  rw [values, entries_set_of_absent h, List.map_append, List.filter_append]
  by_cases hv : p v = true
  · simp [values, hv]
  · simp [values, hv]

omit [DecidableEq κ] in
@[simp] lemma entries_mapValues {μ : Type*} {f : ν → μ} {d : Dict κ ν} :
    (d.mapValues f).entries = d.entries.map fun e => (e.1, f e.2) := rfl

/-- Looking up in a mapped dictionary. -/
@[simp] lemma get?_mapValues {μ : Type*} {f : ν → μ} {d : Dict κ ν} {k} :
    (d.mapValues f).get? k = (d.get? k).map f := by
  obtain ⟨es, nd⟩ := d
  simp only [get?, entries_mapValues]
  clear nd
  induction es with
  | nil => rfl
  | cons e es ih =>
    by_cases h : e.1 = k
    · simp [lookup, h]
    · simp [lookup, h, ih]

/-- Assigning to a present key a value with the same property keeps the number of such values. -/
lemma length_filter_values_set {d : Dict κ ν} {k v v'} {p : ν → Bool}
    (present : d.get? k = some v') (same : p v = p v') :
    ((d.set k v).values.filter p).length = (d.values.filter p).length := by
  have replaced : (d.set k v).values = d.entries.map fun e => if e.1 = k then v else e.2 := by
    rw [values, entries_set_of_present present, List.map_map]
    apply List.map_congr_left
    intro e _
    by_cases h : e.1 = k <;> simp [h]
  rw [replaced, values, ← List.countP_eq_length_filter, ← List.countP_eq_length_filter,
    List.countP_map, List.countP_map]
  apply List.countP_congr
  intro e member
  by_cases h : e.1 = k
  · have own : e.2 = v' := by
      have found : d.get? e.1 = some e.2 := get?_eq_some_iff.mpr member
      rw [h, present] at found
      exact (Option.some.inj found).symm
    simp [h, own, same]
  · simp [h]

/-- Assigning the entries of a dictionary one after the other builds it. -/
lemma foldl_set_entries (d : Dict κ ν) :
    d.entries.foldl (fun acc e => acc.set e.1 e.2) .empty = d := by
  have build {es : List (κ × ν)} (nd : (es.map Prod.fst).Nodup) :
      (es.foldl (fun acc e => acc.set e.1 e.2) (.empty : Dict κ ν)).entries = es := by
    induction es using List.reverseRecOn with
    | nil => rfl
    | append_singleton es e ih =>
      rw [List.map_append, List.nodup_append] at nd
      obtain ⟨before, -, apart⟩ := nd
      have absent :
          (es.foldl (fun acc e => acc.set e.1 e.2) (.empty : Dict κ ν)).get? e.1 = none := by
        rw [get?_eq_none_iff, keys, ih before]
        intro there
        exact apart e.1 there e.1 (List.mem_singleton_self _) rfl
      rw [List.foldl_append, List.foldl_cons, List.foldl_nil, entries_set_of_absent absent,
        ih before]
  exact ext (build d.nodup)

/-- An entry of a dictionary is one of those it was made from. -/
lemma mem_of_get?_ofList {es : List (κ × ν)} {k v}
    (found : (ofList es).get? k = some v) : (k, v) ∈ es := by
  have grown {d : Dict κ ν} {es : List (κ × ν)}
      (found : (d.update es).get? k = some v) : d.get? k = some v ∨ (k, v) ∈ es := by
    induction es generalizing d with
    | nil => exact .inl found
    | cons e es ih =>
      obtain here | mem := ih found
      · rw [get?_set] at here
        split at here
        · rename_i same
          cases here
          exact .inr (List.mem_cons.mpr (.inl (Prod.ext same rfl)))
        · exact .inl here
      · exact .inr (List.mem_cons_of_mem _ mem)
  obtain none | mem := @grown .empty es found
  · cases none
  · exact mem

/-- A dictionary made from keys holds what was made for each of them. -/
lemma get?_ofList_map {f : κ → ν} {ks : List κ} {k} (mem : k ∈ ks) :
    (ofList (ks.map fun k => (k, f k))).get? k = some (f k) := by
  have grown {d : Dict κ ν} : (d.update (ks.map fun k => (k, f k))).get? k =
      if k ∈ ks then some (f k) else d.get? k := by
    clear mem
    induction ks generalizing d with
    | nil => rfl
    | cons k' ks ih =>
      refine ih.trans ?_
      by_cases later : k ∈ ks
      · rw [if_pos later, if_pos (List.mem_cons_of_mem _ later)]
      · rw [if_neg later, get?_set]
        by_cases here : k = k'
        · rw [if_pos here, if_pos (here ▸ List.mem_cons_self), here]
        · rw [if_neg here, if_neg (by simp [here, later])]
  exact (@grown .empty).trans (if_pos mem)

omit [DecidableEq κ] in
/-- Changing the values keeps the keys. -/
lemma keys_mapValues {μ : Type*} {f : ν → μ} {d : Dict κ ν} : (d.mapValues f).keys = d.keys := by
  unfold keys
  rw [entries_mapValues, List.map_map]
  rfl

end Dict

end SentinelOps
