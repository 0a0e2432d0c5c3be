import SentinelOps.Lib.PyText
import Mathlib.Tactic.NormNum
import Mathlib.Tactic.Positivity

/-!
# Floating-point numbers as Python compares them

A `PyFloat` is a NaN, an infinity or a finite number, which is given by its rational value. A
comparison with a NaN is false, so a NaN passes every check that only refuses values on the wrong
side of a bound. `PyFloat.intFloorDiv` is `int(n // x)`, which raises for a NaN, for zero and where
the quotient is too large for a float; below `2 ^ 53` it is exact.
-/

namespace SentinelOps

/-- A Python `float`. -/
inductive PyFloat where
  | nan
  | negInf
  | fin (q : ℚ)
  | posInf
  deriving DecidableEq

namespace PyFloat

/-- `a < b`. -/
def lt : PyFloat → PyFloat → Bool
  | .nan, _ | _, .nan | .posInf, _ | _, .negInf => false
  | .negInf, _ | _, .posInf => true
  | .fin a, .fin b => decide (a < b)

/-- `a <= b`. -/
def le (a b : PyFloat) : Bool := a.lt b || (decide (a = b) && decide (a ≠ .nan))

/-- `max(a, b)`: the second argument replaces the first only when it is greater. -/
def max (a b : PyFloat) : PyFloat := if a.lt b = true then b else a

/-- `max(xs)` of a list with a first element. -/
def maximum (a : PyFloat) (xs : List PyFloat) : PyFloat := xs.foldl max a

/-- A power of two. -/
def pow2 (e : Int) : ℚ := if 0 ≤ e then 2 ^ e.toNat else 1 / 2 ^ (-e).toNat

/-- The exponent `e` of a positive number `q` with `2 ^ e ≤ q < 2 ^ (e + 1)`. -/
def exponent (q : ℚ) : Int :=
  let e : Int := (Nat.log2 q.num.natAbs : Int) - Nat.log2 q.den
  if q < pow2 e then e - 1 else e

/-- What the largest float and half a unit in its last place add up to: a number from here on is
rounded to infinity. -/
def overflow : ℚ := 2 ^ 1024 - 2 ^ 970

/-- The `float` nearest to a number, a tie to the even one. -/
def nearest (q : ℚ) : PyFloat :=
  if q = 0 then .fin 0
  else if overflow ≤ |q| then (if q < 0 then .negInf else .posInf)
  else
    let unit := pow2 (Max.max (exponent |q|) (-1022) - 52)
    .fin (Py.roundHalfEven (q / unit) * unit)

/-- `timedelta.total_seconds()`, of a duration in microseconds. -/
def totalSeconds (us : Int) : PyFloat := nearest ((us : ℚ) / 1000000)

/-- `f"{x:.df}"`. -/
def fixed (d : Nat) : PyFloat → String
  | .nan => "nan"
  | .negInf => "-inf"
  | .fin q => Py.fixed d q
  | .posInf => "inf"

/-- `str(x)`, for a finite value that is a decimal of moderate size. -/
def text : PyFloat → String
  | .nan => "nan"
  | .negInf => "-inf"
  | .fin q => Py.floatStr q
  | .posInf => "inf"

/-- `f"{x:.d%}"`: the value times a hundred, which is rounded before it is written. -/
def percent (d : Nat) : PyFloat → String
  | .fin q =>
    (match nearest (q * 100) with
      | .fin p => Py.fixed d p
      | .posInf => "inf"
      | .negInf => "-inf"
      | .nan => "nan") ++ "%"
  | .posInf => "inf%"
  | .negInf => "-inf%"
  | .nan => "nan%"

/-- `int(n // x)`, with the text of the exception where there is no such integer. -/
def intFloorDiv (n : Int) : PyFloat → Except String Int
  | .nan => .error "cannot convert float NaN to integer"
  | .posInf => .ok (if n < 0 then -1 else 0)
  | .negInf => .ok (if 0 < n then -1 else 0)
  | .fin q =>
    if q = 0 then .error "float floor division by zero"
    else if overflow ≤ |n / q| then .error "cannot convert float infinity to integer"
    else .ok (n / q).floor

/-- `timedelta(seconds=x)` in microseconds. -/
def timedelta : PyFloat → Except String Int
  | .nan => .error "cannot convert float NaN to integer"
  | .fin q => .ok (Py.roundHalfEven (q * 1000000))
  | .posInf | .negInf => .error "cannot convert float infinity to integer"

/-- `Field(ge=…, le=…)`. -/
def Between (a x b : PyFloat) : Prop := x.lt a = false ∧ b.lt x = false

/-- `Field(gt=…)`. -/
def Above (a x : PyFloat) : Prop := x.le a = false

/-- The second of two is not below the first, and no NaN unless the first is one. -/
def Rises (a b : PyFloat) : Prop := b.lt a = false ∧ (b = .nan → a = .nan)

instance {a x b} : Decidable (Between a x b) := inferInstanceAs (Decidable (_ ∧ _))

instance {a x} : Decidable (Above a x) := inferInstanceAs (Decidable (_ = _))

/-- A comparison with a NaN is false. -/
@[simp] lemma lt_nan {a : PyFloat} : a.lt .nan = false := by
  cases a <;> rfl

/-- No number is less than itself. -/
@[simp] lemma lt_self {a : PyFloat} : a.lt a = false := by
  cases a <;> simp [lt]

/-- The order is transitive. -/
lemma lt_trans {a b c : PyFloat} (h : a.lt b = true) (h' : b.lt c = true) : a.lt c = true := by
  cases a <;> cases b <;> cases c <;> simp [lt] at h h' ⊢
  exact h.trans h'

/-- What a number that is no NaN does not exceed is beyond whatever is beyond it. -/
lemma not_lt_trans {a b c : PyFloat} (num : b ≠ .nan) (h : b.lt a = false) (h' : c.lt b = false) :
    c.lt a = false := by
  cases a <;> cases b <;> cases c <;> simp [lt] at h h' num ⊢
  exact h.trans h'

/-- The greater of two is one of them. -/
lemma max_cases {a b : PyFloat} : max a b = a ∨ max a b = b := by
  unfold max
  split
  · exact .inr rfl
  · exact .inl rfl

/-- Neither of two is greater than the greater of them, unless the first is a NaN. -/
lemma not_max_lt {a b : PyFloat} : (max a b).lt a = false ∧ (a ≠ .nan → (max a b).lt b = false) := by
  unfold max
  split
  · rename_i h
    refine ⟨?_, fun _ => lt_self⟩
    by_contra back
    rw [Bool.not_eq_false] at back
    have := lt_trans h back
    rw [lt_self] at this
    cases this
  · rename_i h
    exact ⟨lt_self, fun _ => Bool.not_eq_true _ ▸ h⟩

/-- The greater of two is no NaN when the first is none. -/
lemma max_ne_nan {a b : PyFloat} (num : a ≠ .nan) : max a b ≠ .nan := by
  unfold max
  split
  · rename_i h
    rintro rfl
    rw [lt_nan] at h
    cases h
  · exact num

/-- The maximum of a list with one more element. -/
@[simp] lemma maximum_append {a : PyFloat} {xs x} :
    maximum a (xs ++ [x]) = max (maximum a xs) x := by
  simp [maximum]

/-- The maximum is one of the values, no NaN unless the first of them is one, and none of them is
greater. -/
lemma maximum_spec {a : PyFloat} (num : a ≠ .nan) (xs : List PyFloat) :
    maximum a xs ≠ .nan ∧ maximum a xs ∈ a :: xs ∧ ∀ x ∈ a :: xs, (maximum a xs).lt x = false := by
  induction xs using List.reverseRecOn with
  | nil => exact ⟨num, by simp [maximum], by simp [maximum]⟩
  | append_singleton xs x ih =>
    obtain ⟨num', mem, top⟩ := ih
    rw [maximum_append]
    refine ⟨max_ne_nan num', ?_, ?_⟩
    · rcases @max_cases (maximum a xs) x with e | e
      · rw [e]
        exact List.mem_cons.mpr ((List.mem_cons.mp mem).imp_right (List.mem_append_left [x]))
      · rw [e]
        simp
    · have old : (max (maximum a xs) x).lt (maximum a xs) = false := not_max_lt.1
      intro y hy
      by_cases new : y = x
      · rw [new]
        exact not_max_lt.2 num'
      · refine not_lt_trans num' (top y ?_) old
        simpa [new] using hy

/-- A quotient that is no float overflow has fewer than 321 digits. -/
lemma intFloorDiv_lt {n : Int} {x : PyFloat} {q : Int} (h : x.intFloorDiv n = .ok q) :
    q < 10 ^ 320 := by
  have large : (0 : Int) < 10 ^ 320 := by positivity
  cases x with
  | nan => cases h
  | posInf =>
    have e : (if n < 0 then -1 else 0) = q := Except.ok.inj h
    rw [← e]
    split
    · omega
    · exact large
  | negInf =>
    have e : (if 0 < n then -1 else 0) = q := Except.ok.inj h
    rw [← e]
    split
    · omega
    · exact large
  | fin d =>
    unfold intFloorDiv at h
    dsimp only at h
    split at h
    · cases h
    · split at h
      · cases h
      · rename_i small
        cases h
        have bound : overflow < 10 ^ 320 := by
          have power : (2 ^ 1024 : ℚ) = (2 ^ 256) ^ 4 := by rw [← pow_mul]
          have power' : (10 ^ 320 : ℚ) = (10 ^ 80) ^ 4 := by rw [← pow_mul]
          have less : (2 ^ 256 : ℚ) < 10 ^ 80 := by norm_num
          have pos : (0 : ℚ) < 2 ^ 970 := by positivity
          have := pow_lt_pow_left₀ less (by positivity) (by decide : 4 ≠ 0)
          unfold overflow
          rw [power, power']
          exact (sub_lt_self _ pos).trans this
        have below : (n / d : ℚ) < 10 ^ 320 :=
          (le_abs_self _).trans_lt ((not_le.mp small).trans bound)
        rw [Rat.floor_lt_iff]
        exact_mod_cast below

/-- A bound that was met is still met. -/
lemma Rises.le {a b c : PyFloat} (h : a.Rises b) (met : c.le a = true) : c.le b = true := by
  obtain ⟨up, num⟩ := h
  cases a <;> cases b <;> cases c <;> simp [PyFloat.le, lt] at up num met ⊢
  rename_i p q r
  rcases lt_or_eq_of_le up with more | rfl
  · rcases met with less | rfl
    · exact .inl (less.trans more)
    · exact .inl more
  · exact met

/-- What is at most a number rises to it. -/
lemma Rises.of_le {a b : PyFloat} (h : a.le b = true) : a.Rises b := by
  unfold Rises
  cases a <;> cases b <;> simp [PyFloat.le, lt] at h ⊢
  rcases h with less | rfl
  · exact less.le
  · exact le_rfl

/-- A maximum is not below what it replaces. -/
lemma Rises.to_max {a b : PyFloat} : a.Rises (a.max b) := by
  refine ⟨not_max_lt.1, ?_⟩
  intro none'
  by_contra num
  exact max_ne_nan num none'

/-- Numbers that rise do so above a common bound. -/
lemma Rises.max {a b c : PyFloat} (h : a.Rises b) : (a.max c).Rises (b.max c) := by
  obtain ⟨up, num⟩ := h
  unfold PyFloat.max
  by_cases above : a.lt c = true
  · rw [if_pos above]
    split
    · exact ⟨lt_self, fun e => e⟩
    · rename_i above'
      refine ⟨Bool.not_eq_true _ ▸ above', ?_⟩
      intro none'
      rw [num none'] at above
      cases above
  · rw [if_neg above]
    split
    · rename_i above'
      have num' : b ≠ .nan := by
        rintro rfl
        cases above'
      have back : c.lt b = false := by
        by_contra less
        rw [Bool.not_eq_false] at less
        have := lt_trans less above'
        rw [lt_self] at this
        cases this
      refine ⟨not_lt_trans num' up back, ?_⟩
      rintro rfl
      rw [lt_nan] at above'
      cases above'
    · exact ⟨up, num⟩

end PyFloat

end SentinelOps
