import Mathlib.Logic.Basic
import Mathlib.Data.Subtype

/-!
# Computations that may raise and values that were validated

A function that may raise is a function into `Except`. `Except.bind_eq_ok` takes a successful
computation apart at its binds, `Except.map_eq_ok` at its maps; `ensure` is the guard
`if not p: raise e`.

A `Schema` states which field values a data class accepts. `Validated α` is a value together with
the proof that its schema accepts it, so a value that the class would have refused cannot be built;
`construct` is the constructor call, which refuses everything else, and `Validated.modelCopy` is the
copy with updated fields, for updates that keep the value acceptable.
-/

namespace SentinelOps

universe u

variable {ε : Type*} {α β : Type u}

/-- A successful bind is two successful computations. -/
lemma Except.bind_eq_ok {x : Except ε α} {f : α → Except ε β} {b} :
    (x >>= f) = .ok b ↔ ∃ a, x = .ok a ∧ f a = .ok b := by
  cases x with
  | ok a => simp [bind, Except.bind]
  | error e => simp [bind, Except.bind]

/-- What follows a computation that returned. -/
lemma Except.ok_bind {a} {f : α → Except ε β} : ((.ok a : Except ε α) >>= f) = f a := rfl

/-- A successful map is a successful computation. -/
lemma Except.map_eq_ok {x : Except ε α} {f : α → β} {b} :
    (f <$> x) = .ok b ↔ ∃ a, x = .ok a ∧ f a = b := by
  cases x with
  | ok a => simp [Functor.map, Except.map]
  | error e => simp [Functor.map, Except.map]

/-- A traversal whose steps all succeed. -/
lemma mapM_eq_map {f : α → Except ε β} {g : α → β} {xs : List α}
    (h : ∀ x ∈ xs, f x = .ok (g x)) : xs.mapM f = .ok (xs.map g) := by
  induction xs with
  | nil => rfl
  | cons x xs ih =>
    rw [List.mapM_cons, h x (List.mem_cons_self ..),
      ih fun y mem => h y (List.mem_cons_of_mem _ mem)]
    rfl

/-- The values of a traversal that collects what it finds. -/
lemma mapM_found {f : α → Except ε (Option β)} {xs : List α} {rs} (h : xs.mapM f = .ok rs) :
    (∀ x ∈ xs, ∃ r, f x = .ok r) ∧ ∀ y, y ∈ rs.filterMap id ↔ ∃ x ∈ xs, f x = .ok (some y) := by
  induction xs generalizing rs with
  | nil =>
    cases h
    simp
  | cons x xs ih =>
    rw [List.mapM_cons] at h
    obtain ⟨r, first, h⟩ := Except.bind_eq_ok.mp h
    obtain ⟨rs', later, h⟩ := Except.bind_eq_ok.mp h
    cases h
    obtain ⟨total, found⟩ := ih later
    refine ⟨by simpa [first] using total, fun y => ?_⟩
    cases r with
    | none => simpa [first] using found y
    | some z => simpa [first, eq_comm] using or_congr (Iff.refl (y = z)) (found y)

/-- A traversal collects a value for each element. -/
lemma length_of_mapM {f : α → Except ε β} {xs : List α} {ys}
    (collected : xs.mapM f = .ok ys) : ys.length = xs.length := by
  induction xs generalizing ys with
  | nil =>
    cases collected
    rfl
  | cons x xs ih =>
    rw [List.mapM_cons] at collected
    obtain ⟨y, -, collected⟩ := Except.bind_eq_ok.mp collected
    obtain ⟨ys', rest, collected⟩ := Except.bind_eq_ok.mp collected
    cases collected
    rw [List.length_cons, List.length_cons, ih rest]

/-- `if not p: raise e`. -/
def ensure (p : Prop) [Decidable p] (e : ε) : Except ε Unit := if p then .ok () else .error e

/-- A guard that was passed. -/
@[simp] lemma ensure_eq_ok {p : Prop} [Decidable p] {e : ε} {u} :
    ensure p e = .ok u ↔ p := by
  by_cases h : p <;> simp [ensure, h]

/-- A guard whose condition holds does nothing. -/
lemma ensure_of {p : Prop} [Decidable p] {e : ε} (h : p) : ensure p e = .ok () := by
  simp [h]

/-- A guard whose condition fails raises. -/
lemma ensure_of_not {p : Prop} [Decidable p] {e : ε} (h : ¬ p) : ensure p e = .error e := by
  simp [ensure, h]

/-- The field values a data class accepts. -/
class Schema (α : Type*) where
  Valid : α → Prop
  decidable : DecidablePred Valid

instance {α : Type*} [S : Schema α] : DecidablePred (Schema.Valid (α := α)) := S.decidable

/-- A value its schema accepts. -/
structure Validated (α : Type*) [Schema α] where
  val : α
  valid : Schema.Valid val

namespace Validated

variable {α : Type*} [Schema α]

/-- Two validated values with the same fields are equal. -/
@[ext] lemma ext {x y : Validated α} (h : x.val = y.val) : x = y := by
  cases x
  cases y
  cases h
  rfl

instance [DecidableEq α] : DecidableEq (Validated α) := fun x y =>
  decidable_of_iff (x.val = y.val) ⟨Validated.ext, fun h => congrArg Validated.val h⟩

/-- `x.model_copy(update=…)`: the updated fields are not checked again, so the update must keep the
value acceptable. -/
def modelCopy (x : Validated α) (f : α → α) (h : ∀ a, Schema.Valid a → Schema.Valid (f a)) :
    Validated α :=
  ⟨f x.val, h _ x.valid⟩

@[simp] lemma val_modelCopy {x : Validated α} {f h} : (x.modelCopy f h).val = f x.val := rfl

end Validated

/-- The constructor of a data class: the validated value, or nothing when a validator refuses. -/
def construct {α : Type*} [Schema α] (a : α) : Option (Validated α) :=
  if h : Schema.Valid a then some ⟨a, h⟩ else none

/-- A constructed value has the fields it was built from. -/
lemma construct_eq_some {α : Type*} [Schema α] {a : α} {x} :
    construct a = some x ↔ a = x.val := by
  unfold construct
  constructor
  · intro h
    split at h
    · cases h
      rfl
    · cases h
  · rintro rfl
    simp [x.valid]

/-- Constructing from the fields of a validated value gives that value back. -/
@[simp] lemma construct_val {α : Type*} [Schema α] {x : Validated α} :
    construct x.val = some x :=
  construct_eq_some.mpr rfl

/-- The constructor refuses exactly the values outside the schema. -/
lemma construct_eq_none {α : Type*} [Schema α] {a : α} :
    construct a = none ↔ ¬ Schema.Valid a := by
  unfold construct
  split
  · rename_i h
    simp [h]
  · rename_i h
    simp [h]

end SentinelOps
