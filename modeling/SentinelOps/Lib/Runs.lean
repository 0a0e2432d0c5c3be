import Mathlib.Data.List.Basic
import Mathlib.Order.Nat

/-!
# Maximal runs

A maximal run of a property of positions is an interval on which it holds and next to which it does
not. Two runs that share a position are the same. A scan from left to right keeps `Scanned`: it has
listed the runs it has passed, and `Scanned.skip` and `Scanned.found` are the rules of its steps.
Where the property no longer holds the list is complete (`Scanned.listsRuns`).
-/

namespace SentinelOps

/-- An interval, with both ends, on which a property holds and next to which it does not. -/
structure MaximalRun (p : ℕ → Prop) (i j : ℕ) : Prop where
  le : i ≤ j
  holds : ∀ k, i ≤ k → k ≤ j → p k
  before : ∀ k, k + 1 = i → ¬ p k
  after : ¬ p (j + 1)

/-- The runs are listed: each of them and no other, in order and apart, so that exactly the
positions with the property are covered. -/
structure ListsRuns (p : ℕ → Prop) (runs : List (ℕ × ℕ)) : Prop where
  mem : ∀ i j, (i, j) ∈ runs ↔ MaximalRun p i j
  apart : runs.Pairwise fun r r' => r.2 + 1 < r'.1
  covers : ∀ k, (∃ r ∈ runs, r.1 ≤ k ∧ k ≤ r.2) ↔ p k

/-- The runs that end before a position are listed, and none of them goes on there. -/
structure Scanned (p : ℕ → Prop) (i : ℕ) (runs : List (ℕ × ℕ)) : Prop where
  boundary : ∀ k, k + 1 = i → p k → ¬ p i
  mem : ∀ a b, (a, b) ∈ runs ↔ MaximalRun p a b ∧ b < i
  apart : runs.Pairwise fun r r' => r.2 + 1 < r'.1
  covers : ∀ k < i, p k → ∃ r ∈ runs, r.1 ≤ k ∧ k ≤ r.2

variable {p : ℕ → Prop} {i j a b : ℕ} {runs : List (ℕ × ℕ)}

namespace MaximalRun

/-- A run does not start before one that it shares a position with. -/
lemma start_le (h : MaximalRun p i j) (h' : MaximalRun p a b) {k} (le : a ≤ k) (inside : k ≤ j) :
    a ≤ i := by
  by_contra less
  obtain ⟨k', rfl⟩ := Nat.exists_eq_add_of_lt (not_le.mp less)
  exact h'.before (i + k') rfl (h.holds _ (by omega) (by omega))

/-- A run does not end behind one that it shares a position with. -/
lemma end_le (h : MaximalRun p i j) (h' : MaximalRun p a b) {k} (le : i ≤ k) (inside : k ≤ b) :
    j ≤ b := by
  by_contra less
  exact h'.after (h.holds (b + 1) (by omega) (by omega))

/-- Runs that share a position are the same. -/
lemma unique (h : MaximalRun p i j) (h' : MaximalRun p a b) {k} (here : i ≤ k ∧ k ≤ j)
    (here' : a ≤ k ∧ k ≤ b) : i = a ∧ j = b := by
  constructor
  · exact le_antisymm (h'.start_le h here.1 here'.2) (h.start_le h' here'.1 here.2)
  · exact le_antisymm (h.end_le h' here.1 here'.2) (h'.end_le h here'.1 here.2)

end MaximalRun

namespace Scanned

/-- Before the scan. -/
lemma start : Scanned p 0 [] where
  boundary := nofun
  mem := by
    intro a b
    simp
  apart := .nil
  covers := nofun

/-- A position without the property is passed. -/
lemma skip (h : Scanned p i runs) (not_here : ¬ p i) : Scanned p (i + 1) runs where
  boundary := by
    rintro k e here
    cases e
    exact absurd here not_here
  mem := by
    intro a b
    rw [h.mem]
    constructor
    · rintro ⟨run, less⟩
      exact ⟨run, by omega⟩
    · rintro ⟨run, le⟩
      refine ⟨run, lt_of_le_of_ne (Nat.lt_succ_iff.mp le) ?_⟩
      rintro rfl
      exact not_here (run.holds b run.le le_rfl)
  apart := h.apart
  covers := by
    intro k less here
    apply h.covers k _ here
    apply lt_of_le_of_ne (Nat.lt_succ_iff.mp less)
    rintro rfl
    exact not_here here

/-- What begins where a scan has arrived and goes on as far as it can is a run. -/
lemma run (h : Scanned p i runs) (le : i ≤ j) (holds : ∀ k, i ≤ k → k ≤ j → p k)
    (after : ¬ p (j + 1)) : MaximalRun p i j where
  le := le
  holds := holds
  before := by
    intro k e here
    exact h.boundary k e here (holds i le_rfl le)
  after := after

/-- A run is passed and listed. -/
lemma found (h : Scanned p i runs) (le : i ≤ j) (holds : ∀ k, i ≤ k → k ≤ j → p k)
    (after : ¬ p (j + 1)) : Scanned p (j + 1) (runs ++ [(i, j)]) where
  boundary := by
    rintro k e -
    cases e
    exact after
  mem := by
    intro a b
    have run := h.run le holds after
    rw [List.mem_append, h.mem, List.mem_singleton]
    constructor
    · rintro (⟨run', less⟩ | e)
      · exact ⟨run', by omega⟩
      · cases e
        exact ⟨run, by omega⟩
    · rintro ⟨run', less⟩
      obtain before | inside := lt_or_ge b i
      · exact .inl ⟨run', before⟩
      -- a run that ends from here on and not after `j` overlaps this one
      · obtain ⟨rfl, rfl⟩ := run'.unique run ⟨run'.le, le_rfl⟩ ⟨inside, by omega⟩
        exact .inr rfl
  apart := by
    rw [List.pairwise_append]
    refine ⟨h.apart, List.pairwise_singleton _ _, ?_⟩
    rintro ⟨a, b⟩ mem r last
    cases List.mem_singleton.mp last
    obtain ⟨run', less⟩ := (h.mem a b).mp mem
    -- a run that ended right before this one would have gone on
    apply lt_of_le_of_ne less
    intro next
    have here : p (b + 1) := by
      rw [next]
      exact holds i le_rfl le
    exact run'.after here
  covers := by
    intro k less here
    obtain before | inside := lt_or_ge k i
    · obtain ⟨r, mem, covered⟩ := h.covers k before here
      exact ⟨r, List.mem_append_left _ mem, covered⟩
    · exact ⟨(i, j), by simp, inside, Nat.lt_succ_iff.mp less⟩

/-- A scan that has passed every position with the property has listed the runs. -/
theorem listsRuns (h : Scanned p i runs) (done : ∀ k, i ≤ k → ¬ p k) : ListsRuns p runs where
  mem := by
    intro a b
    rw [h.mem, and_iff_left_iff_imp]
    intro run
    by_contra beyond
    exact done b (not_lt.mp beyond) (run.holds b run.le le_rfl)
  apart := h.apart
  covers := by
    intro k
    constructor
    · rintro ⟨⟨a, b⟩, mem, inside⟩
      exact ((h.mem a b).mp mem).1.holds k inside.1 inside.2
    · intro here
      apply h.covers k _ here
      by_contra beyond
      exact done k (not_lt.mp beyond) here

end Scanned

end SentinelOps
