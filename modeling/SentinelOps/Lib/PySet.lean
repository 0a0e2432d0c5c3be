import SentinelOps.Lib.PyText
import Mathlib.Data.List.Lex
import Mathlib.Data.List.Dedup
import Mathlib.Data.List.Sort

/-!
# Sets of strings as Python sorts them

`Py.sorted` sorts by insertion, so that it can be evaluated; it agrees with `Py.sortedStr`.
`Py.sortedSet xs` is `sorted(set(xs))`: the members of `xs`, each once, in code-point order. It is
determined by the members (`sortedSet_congr`), so a set that is kept sorted and is added to is the
sorted set of everything that was ever added (`sortedSet_append`).
-/

namespace SentinelOps.Py

/-- `sorted(xs)`. -/
def sorted (xs : List String) : List String := xs.insertionSort fun a b => strLe a b = true

/-- `sorted(set(xs))`. -/
def sortedSet (xs : List String) : List String := sorted xs.dedup

/-- The code points of a string. -/
def codes (s : String) : List Nat := s.toList.map Char.toNat

/-- A string is given by its code points. -/
lemma codes_injective : Function.Injective codes := by
  intro a b h
  have inj : Function.Injective Char.toNat := by
    intro c d e
    exact Char.ext (UInt32.toNat_inj.mp e)
  exact String.toList_injective (List.map_injective_iff.mpr inj h)

/-- `strLe` compares code points. -/
lemma strLe_iff {a b : String} : strLe a b = true ↔ codes a ≤ codes b := by
  unfold strLe
  rw [decide_eq_true_iff]
  exact Iff.rfl

/-- `strLe` is total. -/
lemma strLe_total (a b : String) : (strLe a b || strLe b a) = true := by
  rw [Bool.or_eq_true, strLe_iff, strLe_iff]
  exact le_total _ _

/-- `strLe` is transitive. -/
lemma strLe_trans (a b c : String) (h : strLe a b = true) (h' : strLe b c = true) :
    strLe a c = true := by
  rw [strLe_iff] at h h' ⊢
  exact h.trans h'

/-- `strLe` is antisymmetric. -/
lemma strLe_antisymm {a b : String} (h : strLe a b = true) (h' : strLe b a = true) : a = b := by
  rw [strLe_iff] at h h'
  exact codes_injective (h.antisymm h')

instance : Std.Total fun a b => strLe a b = true :=
  ⟨fun a b => Bool.or_eq_true _ _ ▸ strLe_total a b⟩

instance : IsTrans String fun a b => strLe a b = true := ⟨strLe_trans⟩

/-- A sorted list is sorted. -/
lemma pairwise_sorted {xs : List String} : (sorted xs).Pairwise fun a b => strLe a b = true :=
  List.pairwise_insertionSort _ _

/-- Both sorts agree. -/
lemma sorted_eq_sortedStr {xs : List String} : sorted xs = sortedStr xs :=
  ((List.perm_insertionSort _ xs).trans (List.mergeSort_perm xs _).symm).eq_of_pairwise
    (fun _ _ _ _ => strLe_antisymm) pairwise_sorted
    (List.pairwise_mergeSort strLe_trans strLe_total _)

/-- Sorting keeps the members. -/
@[simp] lemma mem_sorted {xs : List String} {x} : x ∈ sorted xs ↔ x ∈ xs :=
  (List.perm_insertionSort _ xs).mem_iff

/-- A sorted set has the members of the list. -/
@[simp] lemma mem_sortedSet {xs : List String} {x} : x ∈ sortedSet xs ↔ x ∈ xs := by
  rw [sortedSet, mem_sorted, List.mem_dedup]

/-- A sorted set has no duplicates. -/
lemma nodup_sortedSet {xs : List String} : (sortedSet xs).Nodup :=
  (List.perm_insertionSort _ _).nodup_iff.mpr xs.nodup_dedup

/-- Lists with the same members have the same sorted set. -/
lemma sortedSet_congr {xs ys : List String} (h : ∀ x, x ∈ xs ↔ x ∈ ys) :
    sortedSet xs = sortedSet ys := by
  have perm : (sortedSet xs).Perm (sortedSet ys) := by
    rw [List.perm_ext_iff_of_nodup nodup_sortedSet nodup_sortedSet]
    simpa using h
  exact perm.eq_of_pairwise (fun _ _ _ _ => strLe_antisymm) pairwise_sorted pairwise_sorted

/-- Adding to a sorted set. -/
lemma sortedSet_append {xs ys : List String} :
    sortedSet (sortedSet xs ++ ys) = sortedSet (xs ++ ys) := by
  apply sortedSet_congr
  simp

end SentinelOps.Py
