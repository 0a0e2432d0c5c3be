import SentinelOps.Lib.Trailing
import Mathlib.Data.List.Forall2

/-!
# Two tables at once

Two tables of the same length are one table of pairs. What looks only at what the rows of a pair have
in common (sorting, filtering, selecting rows by position) does to both tables what it does to the
table of pairs, and a causal column of the pairs is the pair of the columns. So a statement about two
tables becomes one about each of the pairs.
-/

namespace SentinelOps

variable {α β γ : Type*} {f : List α → α → β} {xs ys before : List α} {ps : List (α × α)}

/-- Tables that are related row by row are the two sides of one table of pairs. -/
lemma exists_pairs {R : α → α → Prop} (h : List.Forall₂ R xs ys) :
    ∃ ps : List (α × α), ps.map Prod.fst = xs ∧ ps.map Prod.snd = ys ∧ ∀ p ∈ ps, R p.1 p.2 := by
  induction h with
  | nil => exact ⟨[], rfl, rfl, fun p mem => by cases mem⟩
  | cons r _ ih =>
    obtain ⟨ps, rfl, rfl, all⟩ := ih
    exact ⟨(_, _) :: ps, rfl, rfl, List.forall_mem_cons.mpr ⟨r, all⟩⟩

/-- An order that does not tell the sides of a pair apart sorts both tables alike. -/
lemma mergeSort_pairs {le : α → α → Bool}
    (same : ∀ p ∈ ps, ∀ q ∈ ps, le p.1 q.1 = le p.2 q.2) :
    (ps.mergeSort fun p q => le p.1 q.1).map Prod.fst = (ps.map Prod.fst).mergeSort le ∧
      (ps.mergeSort fun p q => le p.1 q.1).map Prod.snd = (ps.map Prod.snd).mergeSort le :=
  ⟨List.map_mergeSort fun _ _ _ _ => rfl, List.map_mergeSort same⟩

/-- A test that does not tell the sides of a pair apart keeps the same rows of both tables. -/
lemma filter_pairs {t : α → Bool} (same : ∀ p ∈ ps, t p.1 = t p.2) :
    (ps.filter fun p => t p.1).map Prod.fst = (ps.map Prod.fst).filter t ∧
      (ps.filter fun p => t p.1).map Prod.snd = (ps.map Prod.snd).filter t := by
  refine ⟨(List.filter_map ..).symm, ?_⟩
  rw [List.filter_map, List.filter_congr same]
  rfl

/-- The rows of a table at some positions. -/
def select (positions : List ℕ) (xs : List α) : List α := positions.filterMap (xs[·]?)

/-- A function of the rows of a selection. -/
lemma map_select {positions : List ℕ} {g : α → β} :
    (select positions xs).map g = select positions (xs.map g) := by
  unfold select
  rw [List.map_filterMap]
  simp only [List.getElem?_map]

/-- All rows of a table. -/
lemma select_range : select (List.range xs.length) xs = xs := by
  unfold select
  induction xs with
  | nil => rfl
  | cons x xs ih =>
    rw [List.length_cons, List.range_succ_eq_map, List.filterMap_cons, List.filterMap_map]
    exact congrArg (x :: ·) ih

/-- Rows in another order are all the rows. -/
lemma select_perm {positions : List ℕ} (all : positions.Perm (List.range xs.length)) :
    (select positions xs).Perm xs := by
  have perm : (select positions xs).Perm (select (List.range xs.length) xs) := all.filterMap _
  rwa [select_range] at perm

/-- A row of a column belongs to a row of the table and the rows before it. -/
lemma mem_scan {r : β} (mem : r ∈ scan f before xs) :
    ∃ ys x zs, xs = ys ++ x :: zs ∧ r = f (before ++ ys) x := by
  induction xs generalizing before with
  | nil => cases mem
  | cons x xs ih =>
    obtain rfl | later := List.mem_cons.mp mem
    · exact ⟨[], x, xs, rfl, by rw [List.append_nil]⟩
    · obtain ⟨ys, y, zs, rfl, rfl⟩ := ih later
      exact ⟨x :: ys, y, zs, rfl, by rw [List.append_assoc]; rfl⟩

/-- The column of a table of pairs. -/
def pairColumn (f : List α → α → β) (before : List (α × α)) (p : α × α) : β × β :=
  (f (before.map Prod.fst) p.1, f (before.map Prod.snd) p.2)

/-- It is the pair of the columns of both tables. -/
lemma scan_pairs (before : List (α × α)) :
    (scan (pairColumn f) before ps).map Prod.fst =
        scan f (before.map Prod.fst) (ps.map Prod.fst) ∧
      (scan (pairColumn f) before ps).map Prod.snd =
        scan f (before.map Prod.snd) (ps.map Prod.snd) := by
  induction ps generalizing before with
  | nil => exact ⟨rfl, rfl⟩
  | cons p ps ih =>
    obtain ⟨first, second⟩ := ih (before ++ [p])
    rw [List.map_append] at first second
    exact ⟨congrArg _ first, congrArg _ second⟩

/-- A column agrees in the rows up to which the tables agree. -/
lemma eq_of_mem_scan_pairs (known : α × α → Prop) (agree : ∀ p ∈ ps, known p → p.1 = p.2)
    (early : ps.Pairwise fun p q => known q → known p) {r : β × β}
    (mem : r ∈ scan (pairColumn f) [] ps) :
    ∃ p ∈ ps, (∃ before, r = pairColumn f before p) ∧ (known p → r.1 = r.2) := by
  obtain ⟨ys, p, zs, rfl, rfl⟩ := mem_scan mem
  refine ⟨p, by simp, ⟨_, rfl⟩, fun here => ?_⟩
  have before : ys.map Prod.fst = ys.map Prod.snd := by
    refine List.map_congr_left fun q there => agree q (by simp [there]) ?_
    exact (List.pairwise_append.mp early).2.2 q there p (by simp) here
  rw [pairColumn, List.nil_append, before, agree p (by simp) here]

end SentinelOps
