import SentinelOps.Lib.NumPy
import SentinelOps.Lib.Numerals

/-!
# The median

`np.median`, and how little the rest of a sample can move it: where more than half of the values lie
between two bounds, so does the median (`median_between`), whatever the other values are.
-/

namespace SentinelOps.NumPy

variable {F : Type*} [LinearOrder F] {values : List F} {low high : F} {k : ℕ}

/-- A rank that fewer values reach than are at most a bound. -/
lemma sorted_le_of_countP {d : F} (many : k < values.countP fun v => v ≤ high) :
    (sorted values)[k]?.getD d ≤ high := by
  have counted : (sorted values).countP (fun v => v ≤ high) = values.countP fun v => v ≤ high :=
    (List.perm_insertionSort _ _).countP_eq _
  have inside : k < (sorted values).length :=
    (many.trans_eq counted.symm).trans_le List.countP_le_length
  rw [List.getElem?_eq_getElem inside, Option.getD_some]
  by_contra above
  -- then none of the values from that rank on is counted
  have later : ((sorted values).drop k).countP (fun v => v ≤ high) = 0 := by
    rw [List.countP_eq_zero]
    intro v mem
    obtain ⟨i, at_i, rfl⟩ := List.getElem_of_mem mem
    rw [List.getElem_drop, decide_eq_true_eq, not_le]
    refine (not_le.mp above).trans_le ?_
    obtain rfl | positive := Nat.eq_zero_or_pos i
    · exact le_refl _
    · exact List.pairwise_iff_getElem.mp pairwise_sorted _ _ _ _ (by omega)
  have parts : ((sorted values).take k ++ (sorted values).drop k).countP (fun v => v ≤ high) =
      ((sorted values).take k).countP (fun v => v ≤ high) +
        ((sorted values).drop k).countP (fun v => v ≤ high) := List.countP_append
  rw [List.take_append_drop, later, counted] at parts
  have few : ((sorted values).take k).countP (fun v => decide (v ≤ high)) ≤ k :=
    List.countP_le_length.trans (List.length_take_le _ _)
  omega

/-- A rank that no more values are below than are less than a bound. -/
lemma le_sorted_of_countP {d : F} (many : values.length ≤ k + values.countP fun v => low ≤ v)
    (inside : k < values.length) : low ≤ (sorted values)[k]?.getD d := by
  have rest := values.length_eq_countP_add_countP fun v => decide (low ≤ v)
  have below : (values.countP fun v => ¬ decide (low ≤ v) = true) = values.countP (· < low) := by
    simp
  have first : low ≤ (sorted values)[values.countP (· < low)]?.getD d :=
    le_sorted_countP (by omega)
  exact first.trans (sorted_getD_mono (by omega) inside)

section
variable [Field F]

open scoped Numerals in
/-- `np.median`. -/
def median (values : List F) : F :=
  let n := values.length
  let ranked (i : ℕ) := (sorted values)[i]?.getD 0
  if n % 2 = 1 then ranked (n / 2) else (ranked (n / 2 - 1) + ranked (n / 2)) / 2

/-- The median lies where more than half of the values lie. -/
theorem median_between [IsStrictOrderedRing F]
    (most : values.length < 2 * values.countP fun v => low ≤ v ∧ v ≤ high) :
    low ≤ median values ∧ median values ≤ high := by
  have above : (values.countP fun v => low ≤ v ∧ v ≤ high) ≤ values.countP fun v => low ≤ v :=
    List.countP_mono_left fun v _ both => by simpa using (of_decide_eq_true both).1
  have below : (values.countP fun v => low ≤ v ∧ v ≤ high) ≤ values.countP fun v => v ≤ high :=
    List.countP_mono_left fun v _ both => by simpa using (of_decide_eq_true both).2
  have all : (values.countP fun v => low ≤ v ∧ v ≤ high) ≤ values.length := List.countP_le_length
  have ranked (k : ℕ) (first : values.length ≤ 2 * k + 2) (last : 2 * k ≤ values.length) :
      low ≤ (sorted values)[k]?.getD 0 ∧ (sorted values)[k]?.getD 0 ≤ high :=
    ⟨le_sorted_of_countP (by omega) (by omega), sorted_le_of_countP (by omega)⟩
  simp only [median]
  split_ifs with odd
  · exact ranked _ (by omega) (by omega)
  · obtain ⟨low_first, first_high⟩ := ranked (values.length / 2 - 1) (by omega) (by omega)
    obtain ⟨low_second, second_high⟩ := ranked (values.length / 2) (by omega) (by omega)
    constructor
    · linarith
    · linarith

end

end SentinelOps.NumPy
