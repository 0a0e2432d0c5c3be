import SentinelOps.Lib.Dict
import SentinelOps.Lib.Fallible
import SentinelOps.Lib.Transition
import Mathlib.Data.List.Forall2

/-!
# Relating two runs of the same program

A statement about two runs is proved by relating their data: `Except.Related R` holds of two
computations that both raise the same error or both return values related by `R`, and it is kept by
every construct a fallible program is built from (`bind`, `map`, guards and cases). `Dict.Related R`
relates two dictionaries entry by entry and is kept by lookup and assignment. `Machine.exec_related`
lifts a relation between the states of a machine from one step to whole runs.
-/

namespace SentinelOps

universe u

/-- Two computations that raise the same error, or return related values. -/
inductive Except.Related {ε : Type*} {α β : Type u} (R : α → β → Prop) :
    Except ε α → Except ε β → Prop where
  | ok {a b} : R a b → Related R (.ok a) (.ok b)
  | error {e} : Related R (.error e) (.error e)

namespace Except.Related

variable {ε : Type*} {α β γ δ : Type u} {R R' : α → β → Prop} {S : γ → δ → Prop}

/-- Related computations continued in a related way. -/
lemma bind {x : Except ε α} {y : Except ε β} {f : α → Except ε γ} {g : β → Except ε δ}
    (h : Related R x y) (k : ∀ a b, R a b → Related S (f a) (g b)) :
    Related S (x >>= f) (y >>= g) := by
  cases h with
  | ok r => exact k _ _ r
  | error => exact .error

/-- Related computations with a related function applied to their values. -/
lemma map {x : Except ε α} {y : Except ε β} {f : α → γ} {g : β → δ}
    (h : Related R x y) (k : ∀ a b, R a b → S (f a) (g b)) :
    Related S (f <$> x) (g <$> y) := by
  cases h with
  | ok r => exact .ok (k _ _ r)
  | error => exact .error

/-- A computation is related to itself. -/
lemma refl {R : α → α → Prop} {x : Except ε α} (h : ∀ a, R a a) : Related R x x := by
  cases x with
  | ok a => exact .ok (h a)
  | error e => exact .error

/-- Equal computations are related by equality. -/
lemma of_eq {x y : Except ε α} (h : x = y) : Related (· = ·) x y :=
  h ▸ refl fun _ => rfl

/-- The same computation continued in a related way. -/
lemma bind_same {x : Except ε α} {f : α → Except ε γ} {g : α → Except ε δ}
    (k : ∀ a, Related S (f a) (g a)) : Related S (x >>= f) (x >>= g) := by
  refine bind (of_eq rfl) ?_
  rintro a _ rfl
  exact k a

/-- Related values stay related in a larger relation. -/
lemma mono {x : Except ε α} {y : Except ε β} (h : Related R x y) (k : ∀ a b, R a b → R' a b) :
    Related R' x y := by
  cases h with
  | ok r => exact .ok (k _ _ r)
  | error => exact .error

/-- Related computations raise one error, or return two values that are related. -/
lemma elim {x : Except ε α} {y : Except ε β} (h : Related R x y) :
    (∃ e, x = .error e ∧ y = .error e) ∨ ∃ a b, x = .ok a ∧ y = .ok b ∧ R a b := by
  cases h with
  | ok r => exact .inr ⟨_, _, rfl, rfl, r⟩
  | error => exact .inl ⟨_, rfl, rfl⟩

/-- Equivalent guards that raise the same error. -/
lemma ensure {p q : Prop} [Decidable p] [Decidable q] {e e' : ε} (h : p ↔ q) (he : e = e') :
    Related (fun _ _ => True) (ensure p e) (SentinelOps.ensure q e') := by
  subst he
  unfold SentinelOps.ensure
  by_cases hp : p
  · rw [if_pos hp, if_pos (h.mp hp)]
    exact .ok trivial
  · rw [if_neg hp, if_neg (fun hq => hp (h.mpr hq))]
    exact .error

end Except.Related

/-- Related options are both there or both missing. -/
lemma optionRel_isSome {α β : Type*} {R : α → β → Prop} {x y} (h : Option.Rel R x y) :
    x.isSome = y.isSome := by
  cases h with
  | none => rfl
  | some r => rfl

/-- Related options are both missing, or hold two values that are related. -/
lemma optionRel_elim {α β : Type*} {R : α → β → Prop} {x y} (h : Option.Rel R x y) :
    x = none ∧ y = none ∨ ∃ a b, x = some a ∧ y = some b ∧ R a b := by
  cases h with
  | none => exact .inl ⟨rfl, rfl⟩
  | some r => exact .inr ⟨_, _, rfl, rfl, r⟩

/-- Related options continued in a related way. -/
lemma optionRel_bind {α β γ δ : Type*} {R : α → β → Prop} {S : γ → δ → Prop} {x y}
    {f : α → Option γ} {g : β → Option δ} (h : Option.Rel R x y)
    (k : ∀ a b, R a b → Option.Rel S (f a) (g b)) :
    Option.Rel S (x.bind f) (y.bind g) := by
  cases h with
  | none => exact .none
  | some r => exact k _ _ r

/-- Two dictionaries with the same keys in the same order and related values. -/
def Dict.Related {κ μ ν : Type*} (R : μ → ν → Prop) (d : Dict κ μ) (e : Dict κ ν) : Prop :=
  List.Forall₂ (fun a b => a.1 = b.1 ∧ R a.2 b.2) d.entries e.entries

namespace Dict.Related

variable {κ μ ν : Type*} [DecidableEq κ] {R : μ → ν → Prop} {d : Dict κ μ} {e : Dict κ ν}

omit [DecidableEq κ] in
/-- A dictionary is related to itself. -/
lemma refl {R : μ → μ → Prop} {d : Dict κ μ} (h : ∀ a, R a a) : Related R d d :=
  List.forall₂_same.mpr fun a _ => ⟨rfl, h a.2⟩

/-- Related entries hold related values under a key. -/
lemma lookup_related {es : List (κ × μ)} {fs : List (κ × ν)}
    (h : List.Forall₂ (fun a b => a.1 = b.1 ∧ R a.2 b.2) es fs) (k : κ) :
    Option.Rel R (lookup k es) (lookup k fs) := by
  induction h with
  | nil => exact .none
  | @cons a b _ _ ab _ ih =>
    obtain ⟨ka, va⟩ := a
    obtain ⟨kb, vb⟩ := b
    obtain ⟨rfl, r⟩ := ab
    unfold lookup
    split
    · exact .some r
    · exact ih

/-- Assigning related values keeps entries related. -/
lemma assign_related {es : List (κ × μ)} {fs : List (κ × ν)}
    (h : List.Forall₂ (fun a b => a.1 = b.1 ∧ R a.2 b.2) es fs) (k : κ) {v w} (r : R v w) :
    List.Forall₂ (fun a b => a.1 = b.1 ∧ R a.2 b.2) (assign k v es) (assign k w fs) := by
  induction h with
  | nil => exact .cons ⟨rfl, r⟩ .nil
  | @cons a b _ _ ab rest ih =>
    obtain ⟨ka, va⟩ := a
    obtain ⟨kb, vb⟩ := b
    obtain ⟨rfl, rab⟩ := ab
    unfold assign
    split
    · exact .cons ⟨rfl, r⟩ rest
    · exact .cons ⟨rfl, rab⟩ ih

/-- Related dictionaries hold related values under a key. -/
lemma get? (h : Related R d e) (k : κ) : Option.Rel R (d.get? k) (e.get? k) :=
  lookup_related h k

/-- Assigning related values keeps dictionaries related. -/
lemma set (h : Related R d e) (k : κ) {v w} (r : R v w) : Related R (d.set k v) (e.set k w) :=
  assign_related h k r

/-- Related dictionaries hold the same keys. -/
lemma contains (h : Related R d e) (k : κ) : d.contains k = e.contains k :=
  optionRel_isSome (h.get? k)

omit [DecidableEq κ] in
/-- The values of related dictionaries are related in order. -/
lemma values (h : Related R d e) : List.Forall₂ R d.values e.values := by
  unfold Dict.values
  rw [List.forall₂_map_left_iff, List.forall₂_map_right_iff]
  exact h.imp fun _ _ ab => ab.2

end Dict.Related

/-- What related elements agree on, related lists agree on. -/
lemma map_eq_of_related {α β γ : Type*} {R : α → β → Prop} {f : α → γ} {g : β → γ} {l l'}
    (h : List.Forall₂ R l l') (k : ∀ a b, R a b → f a = g b) : l.map f = l'.map g := by
  induction h with
  | nil => rfl
  | cons r _ ih => rw [List.map_cons, List.map_cons, k _ _ r, ih]

/-- Related places of related lists. -/
lemma getElem?_related {α β : Type*} {R : α → β → Prop} {l l'} (h : List.Forall₂ R l l') (i : Nat) :
    Option.Rel R l[i]? l'[i]? := by
  induction h generalizing i with
  | nil => exact .none
  | cons r _ ih =>
    cases i with
    | zero => exact .some r
    | succ i => exact ih i

/-- Writing related values at one place keeps lists related. -/
lemma set_related {α β : Type*} {R : α → β → Prop} {l l'} (h : List.Forall₂ R l l') (i : Nat) {a b}
    (r : R a b) : List.Forall₂ R (l.set i a) (l'.set i b) := by
  induction h generalizing i with
  | nil => exact .nil
  | cons rab rest ih =>
    cases i with
    | zero => exact .cons r rest
    | succ i => exact .cons rab (ih i)

/-- Two runs over related labels from related states end in related states, or neither is a run,
when every step over related labels does so. -/
theorem Machine.exec_related {σ ι : Type*} {M : Machine σ ι} {R : σ → σ → Prop} {L : ι → ι → Prop}
    (one : ∀ s t l k, R s t → L l k → Option.Rel R (M.step s l) (M.step t k)) {s t ls ks}
    (h : R s t) (hl : List.Forall₂ L ls ks) : Option.Rel R (M.exec s ls) (M.exec t ks) := by
  induction hl generalizing s t with
  | nil => exact .some h
  | cons l _ ih => exact optionRel_bind (one _ _ _ _ h l) fun _ _ r => ih r

end SentinelOps
