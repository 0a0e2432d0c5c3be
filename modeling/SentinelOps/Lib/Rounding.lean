import SentinelOps.Lib.PyFloat
import Mathlib.Algebra.Order.Field.Power
import Mathlib.Tactic.Ring
import Mathlib.Tactic.Linarith

/-!
# The order of floats and rounding

`nearest_mono`: of two numbers the greater one never becomes the smaller float. Within one binade
both are rounded to multiples of the same unit, and between two of them lies a power of two that
neither rounding crosses; a negative number is rounded like its absolute value. The order of the
floats that are no NaN is linear, so a maximum is determined by the values (`maximum_congr`).
-/

namespace SentinelOps

namespace Py

/-- Rounding, over the floor of an ordered field. -/
lemma roundHalfEven_def (q : ℚ) : roundHalfEven q =
    if q - ⌊q⌋ < 1 / 2 then ⌊q⌋
    else if 1 / 2 < q - ⌊q⌋ then ⌊q⌋ + 1
    else if ⌊q⌋ % 2 = 0 then ⌊q⌋
    else ⌊q⌋ + 1 := rfl

/-- A number is rounded to its floor or to the next integer. -/
lemma roundHalfEven_bounds (q : ℚ) : ⌊q⌋ ≤ roundHalfEven q ∧ roundHalfEven q ≤ ⌊q⌋ + 1 := by
  rw [roundHalfEven_def]
  split_ifs <;> omega

/-- Rounding keeps the order. -/
lemma roundHalfEven_mono {p q : ℚ} (h : p ≤ q) : roundHalfEven p ≤ roundHalfEven q := by
  rcases (Int.floor_le_floor h).lt_or_eq with less | same
  · have upper := (roundHalfEven_bounds p).2
    have lower := (roundHalfEven_bounds q).1
    omega
  · have fraction : p - ⌊p⌋ ≤ q - ⌊q⌋ := by
      rw [same]
      exact sub_le_sub_right h _
    rw [roundHalfEven_def p, roundHalfEven_def q, ← same]
    rw [← same] at fraction
    split_ifs <;> first | omega | (exfalso; linarith)

/-- An integer is not rounded. -/
lemma roundHalfEven_intCast (n : Int) : roundHalfEven n = n := by
  rw [roundHalfEven_def]
  simp

/-- Rounding is symmetric. -/
lemma roundHalfEven_neg (q : ℚ) : roundHalfEven (-q) = -roundHalfEven q := by
  by_cases whole : (⌊q⌋ : ℚ) = q
  · rw [← whole, ← Int.cast_neg, roundHalfEven_intCast, roundHalfEven_intCast]
  · have below : ⌊-q⌋ = -⌊q⌋ - 1 := by
      rw [Int.floor_eq_iff]
      push_cast
      have := Int.floor_le q
      have strict := lt_of_le_of_ne this whole
      have := Int.lt_floor_add_one q
      constructor <;> linarith
    have fraction : -q - ⌊-q⌋ = 1 - (q - ⌊q⌋) := by
      rw [below]
      push_cast
      ring
    rw [roundHalfEven_def (-q), roundHalfEven_def q, fraction, below]
    split_ifs <;> first | omega | (exfalso; linarith)

end Py

namespace PyFloat

/-- `pow2` is the power of two. -/
lemma pow2_eq (e : Int) : pow2 e = (2 : ℚ) ^ e := by
  unfold pow2
  split
  · rename_i h
    obtain ⟨n, rfl⟩ := Int.eq_ofNat_of_zero_le h
    simp
  · rename_i h
    obtain ⟨n, hn⟩ := Int.eq_ofNat_of_zero_le (show 0 ≤ -e by omega)
    have : e = -(n : Int) := by omega
    subst this
    simp

/-- A quotient of naturals lies within the powers of two that their logarithms give. -/
lemma log2_div_bounds {n d : ℕ} (hn : n ≠ 0) (hd : d ≠ 0) :
    (2 : ℚ) ^ ((n.log2 : Int) - d.log2 - 1) ≤ n / d ∧ (n / d : ℚ) < 2 ^ ((n.log2 : Int) - d.log2 + 1) := by
  have den : (0 : ℚ) < d := by exact_mod_cast Nat.pos_of_ne_zero hd
  have nLow : (2 : ℚ) ^ (n.log2 : Int) ≤ n := by exact_mod_cast Nat.log2_self_le hn
  have nHigh : (n : ℚ) < 2 ^ ((n.log2 : Int) + 1) := by exact_mod_cast (Nat.lt_log2_self : n < _)
  have dLow : (2 : ℚ) ^ (d.log2 : Int) ≤ d := by exact_mod_cast Nat.log2_self_le hd
  have dHigh : (d : ℚ) < 2 ^ ((d.log2 : Int) + 1) := by exact_mod_cast (Nat.lt_log2_self : d < _)
  have two : (2 : ℚ) ≠ 0 := by norm_num
  constructor
  · rw [le_div_iff₀ den]
    calc (2 : ℚ) ^ ((n.log2 : Int) - d.log2 - 1) * d
        ≤ 2 ^ ((n.log2 : Int) - d.log2 - 1) * 2 ^ ((d.log2 : Int) + 1) := by gcongr
      _ = 2 ^ (n.log2 : Int) := by
        rw [← zpow_add₀ two]
        congr 1
        ring
      _ ≤ n := nLow
  · rw [div_lt_iff₀ den]
    calc (n : ℚ) < 2 ^ ((n.log2 : Int) + 1) := nHigh
      _ = 2 ^ ((n.log2 : Int) - d.log2 + 1) * 2 ^ (d.log2 : Int) := by
        rw [← zpow_add₀ two]
        congr 1
        ring
      _ ≤ 2 ^ ((n.log2 : Int) - d.log2 + 1) * d := by gcongr

/-- The exponent of a positive number. -/
lemma exponent_spec {q : ℚ} (h : 0 < q) :
    (2 : ℚ) ^ exponent q ≤ q ∧ q < (2 : ℚ) ^ (exponent q + 1) := by
  have numerator : q.num.natAbs ≠ 0 := Int.natAbs_ne_zero.mpr (Rat.num_ne_zero.mpr h.ne')
  have value : (q.num.natAbs / q.den : ℚ) = q := by
    rw [Nat.cast_natAbs, abs_of_pos (Rat.num_pos.mpr h), Rat.num_div_den]
  have bounds := log2_div_bounds numerator q.den_nz
  rw [value] at bounds
  unfold exponent
  dsimp only
  rw [pow2_eq]
  split
  · rename_i below
    rw [sub_add_cancel]
    exact ⟨bounds.1, below⟩
  · rename_i above
    exact ⟨not_lt.mp above, bounds.2⟩

/-- The exponent of the unit that a number is rounded to a multiple of, up to a constant: that of the
smallest normal numbers at least. -/
def scale (q : ℚ) : Int := Max.max (exponent |q|) (-1022)

/-- The value of a number rounded to the precision of a float, however large it is. -/
def rounded (q : ℚ) : ℚ := Py.roundHalfEven (q / pow2 (scale q - 52)) * pow2 (scale q - 52)

/-- A unit is positive. -/
lemma unit_pos {e : Int} : 0 < pow2 e := by
  rw [pow2_eq]
  positivity

/-- A number is rounded like its absolute value. -/
lemma rounded_neg (q : ℚ) : rounded (-q) = -rounded q := by
  have same : scale (-q) = scale q := by
    unfold scale
    rw [abs_neg]
  unfold rounded
  rw [same, neg_div, Py.roundHalfEven_neg]
  push_cast
  ring

/-- A positive number is below the next power of two. -/
lemma lt_scale {q : ℚ} (h : 0 < q) : q < (2 : ℚ) ^ (scale q + 1) := by
  have spec := (exponent_spec h).2
  refine spec.trans_le (zpow_le_zpow_right₀ (by norm_num) ?_)
  unfold scale
  rw [abs_of_pos h]
  omega

/-- Numbers with the same unit are rounded in their order. -/
lemma rounded_mono_of_scale_eq {p q : ℚ} (h : p ≤ q) (same : scale p = scale q) :
    rounded p ≤ rounded q := by
  unfold rounded
  rw [same]
  have unit := unit_pos (e := scale q - 52)
  refine mul_le_mul_of_nonneg_right ?_ unit.le
  exact_mod_cast Py.roundHalfEven_mono (div_le_div_of_nonneg_right h unit.le)

/-- A power of two from the unit on is a multiple of it. -/
lemma pow_div_unit {e u : Int} (multiple : u ≤ e) : ∃ k : Int, (2 : ℚ) ^ e / pow2 u = k := by
  obtain ⟨n, hn⟩ := Int.eq_ofNat_of_zero_le (sub_nonneg.mpr multiple)
  refine ⟨2 ^ n, ?_⟩
  rw [pow2_eq, ← zpow_sub₀ (by norm_num), hn]
  simp

/-- A power of two that is a multiple of the unit bounds what is rounded below it. -/
lemma rounded_le {q : ℚ} {e : Int} (h : q ≤ 2 ^ e) (multiple : scale q - 52 ≤ e) :
    rounded q ≤ 2 ^ e := by
  obtain ⟨k, hk⟩ := pow_div_unit multiple
  have unit := unit_pos (e := scale q - 52)
  have below : Py.roundHalfEven (q / pow2 (scale q - 52)) ≤ k := by
    rw [← Py.roundHalfEven_intCast k, ← hk]
    exact Py.roundHalfEven_mono (div_le_div_of_nonneg_right h unit.le)
  unfold rounded
  rw [← le_div_iff₀ unit, hk]
  exact_mod_cast below

/-- A power of two that is a multiple of the unit bounds what is rounded above it. -/
lemma le_rounded {q : ℚ} {e : Int} (h : 2 ^ e ≤ q) (multiple : scale q - 52 ≤ e) :
    2 ^ e ≤ rounded q := by
  obtain ⟨k, hk⟩ := pow_div_unit multiple
  have unit := unit_pos (e := scale q - 52)
  have above : k ≤ Py.roundHalfEven (q / pow2 (scale q - 52)) := by
    rw [← Py.roundHalfEven_intCast k, ← hk]
    exact Py.roundHalfEven_mono (div_le_div_of_nonneg_right h unit.le)
  unfold rounded
  rw [← div_le_iff₀ unit, hk]
  exact_mod_cast above

/-- Beyond the smallest normal numbers the unit is given by the number. -/
lemma scale_le {q : ℚ} (h : 0 < q) (normal : -1022 < scale q) : (2 : ℚ) ^ scale q ≤ q := by
  have own : scale q = exponent q := by
    unfold scale at normal ⊢
    rw [abs_of_pos h] at normal ⊢
    omega
  rw [own]
  exact (exponent_spec h).1

/-- Positive numbers are rounded in their order. -/
lemma rounded_mono_of_pos {p q : ℚ} (positive : 0 < p) (h : p ≤ q) : rounded p ≤ rounded q := by
  have smallest {x : ℚ} : -1022 ≤ scale x := le_max_right _ _
  rcases lt_trichotomy (scale p) (scale q) with less | same | greater
  · -- the first power of two of the greater unit lies between them
    have above := scale_le (positive.trans_le h) (smallest.trans_lt less)
    have below : p ≤ 2 ^ scale q :=
      (lt_scale positive).le.trans (zpow_le_zpow_right₀ (by norm_num) (by omega))
    exact (rounded_le below (by omega)).trans (le_rounded above (by omega))
  · exact rounded_mono_of_scale_eq h same
  · have above := scale_le positive (smallest.trans_lt greater)
    have below : q < 2 ^ scale p :=
      (lt_scale (positive.trans_le h)).trans_le (zpow_le_zpow_right₀ (by norm_num) (by omega))
    exact absurd (h.trans_lt below) (not_lt.mpr above)

/-- A number is not rounded beyond zero. -/
lemma rounded_nonneg {q : ℚ} (h : 0 ≤ q) : 0 ≤ rounded q := by
  have unit := unit_pos (e := scale q - 52)
  have above : (0 : Int) ≤ Py.roundHalfEven (q / pow2 (scale q - 52)) := by
    rw [← Py.roundHalfEven_intCast 0]
    refine Py.roundHalfEven_mono ?_
    rw [Int.cast_zero]
    positivity
  unfold rounded
  exact mul_nonneg (by exact_mod_cast above) unit.le

/-- Numbers are rounded in their order. -/
lemma rounded_mono {p q : ℚ} (h : p ≤ q) : rounded p ≤ rounded q := by
  rcases le_or_gt p 0 with negative | positive
  · rcases le_or_gt 0 q with above | below
    · have low := rounded_nonneg (neg_nonneg.mpr negative)
      rw [rounded_neg] at low
      exact (neg_nonneg.mp low).trans (rounded_nonneg above)
    · have mirrored := rounded_mono_of_pos (neg_pos.mpr below) (neg_le_neg h)
      rw [rounded_neg, rounded_neg] at mirrored
      exact neg_le_neg_iff.mp mirrored
  · exact rounded_mono_of_pos positive h

/-- The comparison of finite floats. -/
lemma fin_le {p q : ℚ} : (fin p).le (fin q) = true ↔ p ≤ q := by
  simp [le, lt, le_iff_lt_or_eq]

/-- The comparison of floats is transitive. -/
lemma le_trans {a b c : PyFloat} (h : a.le b = true) (h' : b.le c = true) : a.le c = true := by
  cases a <;> cases b <;> cases c <;> simp [le, lt] at h h' ⊢
  rcases h with h | rfl
  · rcases h' with h' | rfl
    · exact .inl (h.trans h')
    · exact .inl h
  · exact h'

/-- Of two different numbers one is less than the other. -/
lemma eq_of_not_lt {a b : PyFloat} (numA : a ≠ .nan) (numB : b ≠ .nan) (h : a.lt b = false)
    (h' : b.lt a = false) : a = b := by
  cases a <;> cases b <;> simp [lt] at h h' numA numB ⊢
  exact le_antisymm h' h

/-- A maximum is determined by the values. -/
lemma maximum_congr {a : PyFloat} (num : a ≠ .nan) {xs ys : List PyFloat}
    (h : ∀ x, x ∈ xs ↔ x ∈ ys) : maximum a xs = maximum a ys := by
  have same (x : PyFloat) : x ∈ a :: xs ↔ x ∈ a :: ys := by
    rw [List.mem_cons, List.mem_cons, h]
  obtain ⟨numX, memX, topX⟩ := maximum_spec num xs
  obtain ⟨numY, memY, topY⟩ := maximum_spec num ys
  exact eq_of_not_lt numX numY (topX _ ((same _).mpr memY)) (topY _ ((same _).mp memX))

/-- Where numbers are no longer finite floats. -/
lemma overflow_pos : 0 < overflow := by
  unfold overflow
  exact sub_pos.mpr (pow_lt_pow_right₀ (by norm_num) (by norm_num))

/-- The nearest float is the rounded value within the range of the finite floats. -/
lemma nearest_eq (q : ℚ) : nearest q =
    if overflow ≤ |q| then (if q < 0 then .negInf else .posInf) else .fin (rounded q) := by
  unfold nearest
  split
  · rename_i zero
    subst zero
    rw [abs_zero, if_neg (not_le.mpr overflow_pos)]
    unfold rounded
    rw [zero_div, show Py.roundHalfEven 0 = 0 from Py.roundHalfEven_intCast 0]
    simp
  · rfl

/-- The nearest floats of two numbers are in their order. -/
theorem nearest_mono {p q : ℚ} (h : p ≤ q) : (nearest p).le (nearest q) = true := by
  have top (a : PyFloat) (num : a ≠ .nan) : a.le .posInf = true := by
    cases a <;> simp [le, lt] at num ⊢
  have bottom (a : PyFloat) (num : a ≠ .nan) : PyFloat.negInf.le a = true := by
    cases a <;> simp [le, lt] at num ⊢
  rw [nearest_eq p, nearest_eq q]
  by_cases negative : p < 0
  · by_cases large : overflow ≤ |p|
    · rw [if_pos large, if_pos negative]
      apply bottom
      split_ifs <;> simp
    · rw [if_neg large]
      by_cases large' : overflow ≤ |q|
      · have positive : ¬ q < 0 := by
          intro negative'
          rw [abs_of_neg negative'] at large'
          rw [abs_of_neg negative] at large
          linarith
        rw [if_pos large', if_neg positive]
        exact top _ (by simp)
      · rw [if_neg large', fin_le]
        exact rounded_mono h
  · have positive : ¬ q < 0 := by linarith
    by_cases large' : overflow ≤ |q|
    · rw [if_pos large', if_neg positive]
      apply top
      split_ifs <;> simp
    · have small : ¬ overflow ≤ |p| := by
        rw [abs_of_nonneg (not_lt.mp negative)]
        rw [abs_of_nonneg (not_lt.mp positive)] at large'
        linarith
      rw [if_neg small, if_neg large', fin_le]
      exact rounded_mono h

/-- A longer duration does not have fewer seconds. -/
lemma totalSeconds_mono {a b : Int} (h : a ≤ b) : (totalSeconds a).le (totalSeconds b) = true := by
  unfold totalSeconds
  apply nearest_mono
  have : (a : ℚ) ≤ b := by exact_mod_cast h
  linarith

end PyFloat

end SentinelOps
