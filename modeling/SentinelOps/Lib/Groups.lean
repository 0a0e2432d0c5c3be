import Mathlib.Data.List.Basic

/-!
# Groups of a table

The rows of a table by a key: a group for every key, in the order in which the keys appear. A table
that was put together from parts with keys of their own falls into those parts again.
-/

namespace SentinelOps

variable {α κ : Type*} [DecidableEq κ] {key : α → κ}

/-- The rows of each key. -/
def groupedBy (key : α → κ) (xs : List α) : List (List α) :=
  (xs.map key).eraseDups.map fun k => xs.filter fun x => key x = k

/-- Rows of a key that no later row has are the first group. -/
lemma groupedBy_append {xs rest : List α} {k : κ} (some_row : xs ≠ [])
    (same : ∀ x ∈ xs, key x = k) (apart : ∀ x ∈ rest, key x ≠ k) :
    groupedBy key (xs ++ rest) = xs :: groupedBy key rest := by
  have one : (xs.map key).eraseDups = [k] := by
    cases xs with
    | nil => exact absurd rfl some_row
    | cons x xs =>
      obtain ⟨here, later⟩ := List.forall_mem_cons.mp same
      have none : (xs.map key).filter (fun b => !b == k) = [] := by
        rw [List.filter_eq_nil_iff]
        rintro _ mem
        obtain ⟨y, there, rfl⟩ := List.mem_map.mp mem
        simp [later y there]
      rw [List.map_cons, List.eraseDups_cons, here, none, List.eraseDups_nil]
  have others : (rest.map key).removeAll (xs.map key) = rest.map key := by
    rw [List.removeAll, List.filter_eq_self]
    rintro _ mem
    obtain ⟨y, there, rfl⟩ := List.mem_map.mp mem
    have absent : key y ∉ xs.map key := by
      intro mem'
      obtain ⟨x, here, equal⟩ := List.mem_map.mp mem'
      exact apart y there (equal.symm.trans (same x here))
    simpa using absent
  have first : (xs ++ rest).filter (fun x => key x = k) = xs := by
    rw [List.filter_append, List.filter_eq_self.mpr fun x mem => by simp [same x mem],
      List.filter_eq_nil_iff.mpr fun x mem => by simp [apart x mem], List.append_nil]
  unfold groupedBy
  rw [List.map_append, List.eraseDups_append, one, others, List.singleton_append, List.map_cons, first]
  refine congrArg (xs :: ·) (List.map_congr_left fun k' mem => ?_)
  obtain ⟨y, there, rfl⟩ := List.mem_map.mp (List.mem_eraseDups.mp mem)
  have none : xs.filter (fun x => key x = key y) = [] :=
    List.filter_eq_nil_iff.mpr fun x here => by simp [same x here, (apart y there).symm]
  rw [List.filter_append, none, List.nil_append]

/-- A table made of parts whose keys differ. -/
lemma groupedBy_flatten {parts : List (List α)}
    (each : ∀ part ∈ parts, part ≠ [] ∧ ∃ k, ∀ x ∈ part, key x = k)
    (apart : parts.Pairwise fun p q => ∀ x ∈ p, ∀ y ∈ q, key x ≠ key y) :
    groupedBy key parts.flatten = parts := by
  induction parts with
  | nil => rfl
  | cons part parts ih =>
    obtain ⟨⟨some_row, k, same⟩, each⟩ := List.forall_mem_cons.mp each
    obtain ⟨here, apart⟩ := List.pairwise_cons.mp apart
    obtain ⟨x, mem⟩ := List.exists_mem_of_ne_nil _ some_row
    rw [List.flatten_cons, groupedBy_append some_row same, ih each apart]
    intro y there
    obtain ⟨other, in_parts, in_other⟩ := List.mem_flatten.mp there
    rw [← same x mem]
    exact (here other in_parts x mem y in_other).symm

end SentinelOps
