import SentinelOps.Lib.PyFloat
import Mathlib.Order.WithBot

/-!
# Floating-point arithmetic

The operations of Python on floats: the exact result rounded to the nearest float, with the rules for
infinities and NaN. Zeros have no sign here. The operations `addBy`, `subBy`, `mulBy` and `divBy` take
the rounding as an argument; with `.fin` they are exact.
-/

namespace SentinelOps

namespace PyFloat

/-- `-a`. -/
def neg : PyFloat → PyFloat
  | .nan => .nan
  | .negInf => .posInf
  | .fin q => .fin (-q)
  | .posInf => .negInf

/-- A sum, given how a finite one is rounded. -/
def addBy (round : ℚ → PyFloat) : PyFloat → PyFloat → PyFloat
  | .nan, _ | _, .nan | .posInf, .negInf | .negInf, .posInf => .nan
  | .posInf, _ | _, .posInf => .posInf
  | .negInf, _ | _, .negInf => .negInf
  | .fin a, .fin b => round (a + b)

/-- A difference. -/
def subBy (round : ℚ → PyFloat) (a b : PyFloat) : PyFloat := addBy round a b.neg

/-- `a - b`. -/
def sub (a b : PyFloat) : PyFloat := addBy nearest a b.neg

/-- The difference before it is rounded. -/
def exactSub (a b : PyFloat) : PyFloat := addBy .fin a b.neg

/-- An infinity with the sign of the product of two numbers. -/
def signedInf (a b : PyFloat) : PyFloat :=
  if a.lt (.fin 0) = b.lt (.fin 0) then .posInf else .negInf

/-- A product. -/
def mulBy (round : ℚ → PyFloat) : PyFloat → PyFloat → PyFloat
  | .nan, _ | _, .nan => .nan
  | .fin a, .fin b => round (a * b)
  | a, b => if a = .fin 0 ∨ b = .fin 0 then .nan else signedInf a b

/-- `a / b`, which raises where the divisor is zero. -/
def divBy (round : ℚ → PyFloat) (a b : PyFloat) : Except String PyFloat :=
  if b = .fin 0 then .error "float division by zero"
  else .ok (match a, b with
    | .nan, _ | _, .nan => .nan
    | .fin a, .fin b => round (a / b)
    | .fin _, _ => .fin 0
    | a, .fin b => signedInf a (.fin b)
    | _, _ => .nan)

/-- `round(a, d)`: the decimal closest to a number, as a float. -/
def roundDigits (d : Nat) : PyFloat → PyFloat
  | .fin q => nearest (Py.roundTo d q)
  | a => a

/-- A number that is not less than another one is at least that one. -/
lemma le_iff {a b : PyFloat} : a.le b = true ↔ a ≠ .nan ∧ b ≠ .nan ∧ b.lt a = false := by
  cases a <;> cases b <;> simp [le, lt, le_iff_lt_or_eq]

/-- A difference with a NaN is one. -/
@[simp] lemma subBy_nan {round a} : subBy round a .nan = .nan := by
  cases a <;> rfl

/-- A difference from a NaN is one. -/
@[simp] lemma nan_subBy {round a} : subBy round .nan a = .nan := by
  cases a <;> rfl

/-- A NaN replaces nothing and is replaced by nothing. -/
@[simp] lemma max_nan {a : PyFloat} : max .nan a = .nan := by
  cases a <;> rfl

/-- No NaN reaches a bound. -/
@[simp] lemma le_nan {a : PyFloat} : a.le .nan = false := by
  cases a <;> rfl

variable {a b : ℚ}

/-- Exact differences, quotients and maxima of finite numbers. -/
@[simp] lemma subBy_fin : subBy .fin (.fin a) (.fin b) = .fin (a - b) := by
  rw [sub_eq_add_neg]
  rfl

@[simp] lemma addBy_fin : addBy .fin (.fin a) (.fin b) = .fin (a + b) := rfl

@[simp] lemma mulBy_fin : mulBy .fin (.fin a) (.fin b) = .fin (a * b) := rfl

lemma divBy_fin (nonzero : b ≠ 0) : divBy .fin (.fin a) (.fin b) = .ok (.fin (a / b)) := by
  unfold divBy
  rw [if_neg fun e => nonzero (PyFloat.fin.inj e)]

lemma exists_divBy {round} {a b : PyFloat} (nonzero : b ≠ .fin 0) :
    ∃ share, divBy round a b = .ok share :=
  ⟨_, if_neg nonzero⟩

@[simp] lemma lt_fin : (fin a).lt (fin b) = decide (a < b) := rfl

@[simp] lemma le_fin : (fin a).le (fin b) = decide (a ≤ b) := by
  unfold le
  rw [lt_fin]
  simp [le_iff_lt_or_eq]

@[simp] lemma max_fin : PyFloat.max (.fin a) (.fin b) = .fin (Max.max a b) := by
  unfold PyFloat.max
  rw [lt_fin]
  split
  · rename_i less
    rw [max_eq_right (of_decide_eq_true less).le]
  · rename_i more
    rw [max_eq_left (not_lt.mp fun less => more (decide_eq_true less))]

end PyFloat

/-- A float that is no NaN: the floats that are ordered. -/
structure Number where
  val : PyFloat
  num : val ≠ .nan
  deriving DecidableEq

namespace Number

/-- The place of a number in the order. -/
def rank : Number → WithBot (WithTop ℚ)
  | ⟨.nan, num⟩ => absurd rfl num
  | ⟨.negInf, _⟩ => ⊥
  | ⟨.fin q, _⟩ => ((q : WithTop ℚ) : WithBot (WithTop ℚ))
  | ⟨.posInf, _⟩ => ((⊤ : WithTop ℚ) : WithBot (WithTop ℚ))

/-- Numbers have different places. -/
lemma rank_injective : Function.Injective rank := by
  rintro ⟨a, num_a⟩ ⟨b, num_b⟩ same
  have not_nan {h : PyFloat.nan ≠ .nan} {p : Prop} : p := absurd rfl h
  cases a <;> cases b <;>
    first
    | exact not_nan (h := num_a)
    | exact not_nan (h := num_b)
    | simp_all [rank]

instance : LinearOrder Number := LinearOrder.lift' rank rank_injective

/-- Infinity is a number. -/
lemma posInf_ne_nan : PyFloat.posInf ≠ .nan := nofun

/-- `float("inf")`. -/
def inf : Number := ⟨.posInf, posInf_ne_nan⟩

end Number

end SentinelOps
