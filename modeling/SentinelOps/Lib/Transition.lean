import Mathlib.Logic.Relation
import Mathlib.Data.List.Basic

/-!
# Labelled machines and their runs

A `Machine` is a deterministic transition system: a set of initial states and a partial step
function that a label drives. Everything that is not determined by the state (which party moves
next, what a clock reads, what an outside service answers) is carried by the label, so a statement
about every run is a statement about every schedule and every outcome.

`Machine.Run` lists the labels of a finite run, `Machine.Reachable` is a run from an initial state.
The rules below are the ones the developments over a machine use: the invariant rule
(`Machine.Reachable.invariant`), the cut of a run at a given step (`Machine.Run.split`), the step in
which a fact turns true (`Machine.Run.turn`), the rule for the exact condition under which a fact
holds throughout a run (`Machine.Run.always_iff`) and the rule that carries one machine's runs over
to another's (`Machine.Run.simulate`).
-/

namespace SentinelOps

/-- A labelled transition system whose step is a partial function of the state and the label. -/
structure Machine (σ : Type*) (ι : Type*) where
  init : σ → Prop
  step : σ → ι → Option σ

namespace Machine

variable {σ ι τ κ : Type*} {M : Machine σ ι}

/-- `M.Run s ls s'`: the labels `ls` lead, one step each, from `s` to `s'`. -/
inductive Run (M : Machine σ ι) : σ → List ι → σ → Prop where
  | nil {s} :
    Run M s [] s
  | cons {s s' s'' l ls} :
    M.step s l = some s' →
    Run M s' ls s'' →
    Run M s (l :: ls) s''

/-- A state some run from an initial state ends in. -/
def Reachable (M : Machine σ ι) (s : σ) : Prop :=
  ∃ s0 ls, M.init s0 ∧ M.Run s0 ls s

/-- The state the labels lead to, when every one of them is enabled in its turn. -/
def exec (M : Machine σ ι) : σ → List ι → Option σ
  | s, [] => some s
  | s, l :: ls => (M.step s l).bind fun s' => M.exec s' ls

/-- A run is what `exec` computes. -/
lemma run_iff_exec {s ls s'} : M.Run s ls s' ↔ M.exec s ls = some s' := by
  constructor
  · intro r
    induction r with
    | nil => rfl
    | cons st _ ih => simpa [exec, st] using ih
  · intro e
    induction ls generalizing s with
    | nil =>
      cases e
      exact .nil
    | cons l ls ih =>
      obtain ⟨t, st, e'⟩ := Option.bind_eq_some_iff.mp e
      exact .cons st (ih e')

/-- Runs compose. -/
lemma Run.append {s t u ls ls'} (r : M.Run s ls t) (r' : M.Run t ls' u) :
    M.Run s (ls ++ ls') u := by
  induction r with
  | nil => exact r'
  | cons st _ ih => exact .cons st (ih r')

/-- A single step is a run. -/
lemma Run.single {s s' l} (st : M.step s l = some s') : M.Run s [l] s' :=
  .cons st .nil

/-- A run extended by one step at its end. -/
lemma Run.snoc {s t u ls l} (r : M.Run s ls t) (st : M.step t l = some u) :
    M.Run s (ls ++ [l]) u :=
  r.append (.single st)

/-- A run over an appended label list passes through a middle state. -/
lemma Run.cut {s u ls ls'} (r : M.Run s (ls ++ ls') u) :
    ∃ t, M.Run s ls t ∧ M.Run t ls' u := by
  induction ls generalizing s with
  | nil => exact ⟨s, .nil, r⟩
  | cons l ls ih =>
    cases r with
    | cons st r' =>
      obtain ⟨t, r1, r2⟩ := ih r'
      exact ⟨t, .cons st r1, r2⟩

/-- A run cut at one of its labels: the run before, the step itself and the run after. -/
lemma Run.split {s u ls l ls'} (r : M.Run s (ls ++ l :: ls') u) :
    ∃ t t', M.Run s ls t ∧ M.step t l = some t' ∧ M.Run t' ls' u := by
  obtain ⟨t, r1, r2⟩ := r.cut
  cases r2 with
  | cons st r3 => exact ⟨t, _, r1, st, r3⟩

/-- The labels of a run determine where it ends. -/
lemma Run.deterministic {s t u ls} (r : M.Run s ls t) (r' : M.Run s ls u) : t = u := by
  rw [run_iff_exec] at r r'
  rw [r] at r'
  exact Option.some.inj r'

/-- A predicate kept by every step holds at the end of a run that starts in it. -/
lemma Run.invariant {I : σ → Prop} {s t ls} (r : M.Run s ls t)
    (keep : ∀ s l s', I s → M.step s l = some s' → I s') (h : I s) : I t := by
  induction r with
  | nil => exact h
  | cons st _ ih => exact ih (keep _ _ _ h st)

/-- When every step from a state of the invariant lowers a measure, the measure bounds the length of
a run. -/
lemma Run.length_add_le {I : σ → Prop} {μ : σ → ℕ} {s t ls} (r : M.Run s ls t)
    (keep : ∀ s l s', I s → M.step s l = some s' → I s')
    (lower : ∀ s l s', I s → M.step s l = some s' → μ s' < μ s) (h : I s) :
    ls.length + μ t ≤ μ s := by
  induction r with
  | nil => simp
  | cons st _ ih =>
    have rest := ih (keep _ _ _ h st)
    have less := lower _ _ _ h st
    simp only [List.length_cons]
    omega

/-- A fact that is false at the start of a run and true at its end became true in one of its
steps. -/
lemma Run.turn {P : σ → Prop} {s t ls} (r : M.Run s ls t) (no : ¬ P s) (yes : P t) :
    ∃ ls1 l ls2 u u', ls = ls1 ++ l :: ls2 ∧ M.Run s ls1 u ∧ M.step u l = some u' ∧
      M.Run u' ls2 t ∧ ¬ P u ∧ P u' := by
  induction r with
  | nil => exact absurd yes no
  | @cons s s' t l ls st r ih =>
    by_cases h : P s'
    · exact ⟨[], l, ls, s, s', rfl, .nil, st, r, no, h⟩
    · obtain ⟨ls1, l', ls2, u, u', rfl, r1, st', r2, hu, hu'⟩ := ih h yes
      exact ⟨l :: ls1, l', ls2, u, u', rfl, .cons st r1, st', r2, hu, hu'⟩

/-- An initial state is reachable. -/
lemma Reachable.init {s} (h : M.init s) : M.Reachable s :=
  ⟨s, [], h, .nil⟩

/-- A step leads from a reachable state to a reachable one. -/
lemma Reachable.step {s l s'} (h : M.Reachable s) (st : M.step s l = some s') :
    M.Reachable s' := by
  obtain ⟨s0, ls, h0, r⟩ := h
  exact ⟨s0, ls ++ [l], h0, r.snoc st⟩

/-- A run leads from a reachable state to a reachable one. -/
lemma Reachable.run {s ls s'} (h : M.Reachable s) (r : M.Run s ls s') : M.Reachable s' := by
  obtain ⟨s0, ls0, h0, r0⟩ := h
  exact ⟨s0, ls0 ++ ls, h0, r0.append r⟩

/-- The invariant rule: what holds initially and is kept by every step holds of every reachable
state. -/
theorem Reachable.invariant {I : σ → Prop} {s} (h : M.Reachable s)
    (base : ∀ s, M.init s → I s)
    (keep : ∀ s l s', I s → M.step s l = some s' → I s') : I s := by
  obtain ⟨s0, ls, h0, r⟩ := h
  exact r.invariant keep (base s0 h0)

/-- What a step does from a state of a known invariant may be used to establish the next one. -/
theorem Reachable.invariant' {I J : σ → Prop} {s} (h : M.Reachable s)
    (known : ∀ s, M.Reachable s → I s)
    (base : ∀ s, M.init s → J s)
    (keep : ∀ s l s', I s → J s → M.step s l = some s' → J s') : J s := by
  obtain ⟨s0, ls, h0, r⟩ := h
  have hr : M.Reachable s0 := .init h0
  have hJ := base s0 h0
  clear h0
  induction r with
  | nil => exact hJ
  | cons st _ ih => exact ih (hr.step st) (keep _ _ _ (known _ hr) hJ st)

/-- Every state of the run over `ls` from `s`, the first and the last included, satisfies `P`. -/
def Always (M : Machine σ ι) (P : σ → Prop) (s : σ) (ls : List ι) : Prop :=
  ∀ ls1 ls2 u, ls = ls1 ++ ls2 → M.Run s ls1 u → P u

/-- Every step of the run over `ls` from `s` satisfies `Q`. -/
def EachStep (M : Machine σ ι) (Q : σ → ι → σ → Prop) (s : σ) (ls : List ι) : Prop :=
  ∀ ls1 l ls2 u u', ls = ls1 ++ l :: ls2 → M.Run s ls1 u → M.step u l = some u' → Q u l u'

/-- What holds of every step of a run holds of its first step and of the steps after it. -/
lemma eachStep_cons {Q s l ls s'} (st : M.step s l = some s') :
    M.EachStep Q s (l :: ls) ↔ Q s l s' ∧ M.EachStep Q s' ls := by
  constructor
  · intro h
    refine ⟨h [] l ls s s' rfl .nil st, ?_⟩
    intro ls1 k ls2 u u' e r su
    exact h (l :: ls1) k ls2 u u' (by rw [e]; rfl) (.cons st r) su
  · rintro ⟨first, rest⟩ ls1 k ls2 u u' e r su
    cases r with
    | nil =>
      cases e
      cases st.symm.trans su
      exact first
    | cons st' r =>
      cases e
      cases st.symm.trans st'
      exact rest _ k ls2 u u' rfl r su

/-- What holds of every state of a run holds of its first state and of the states after it. -/
lemma always_cons {P s l ls s'} (st : M.step s l = some s') :
    M.Always P s (l :: ls) ↔ P s ∧ M.Always P s' ls := by
  constructor
  · intro h
    refine ⟨h [] (l :: ls) s rfl .nil, ?_⟩
    intro ls1 ls2 u e r
    exact h (l :: ls1) ls2 u (by rw [e]; rfl) (.cons st r)
  · rintro ⟨first, rest⟩ ls1 ls2 u e r
    cases r with
    | nil => exact first
    | cons st' r =>
      cases e
      cases st.symm.trans st'
      exact rest _ ls2 u rfl r

/-- What holds of every step of a run holds of every step of its beginning. -/
lemma EachStep.initial {Q s ls ls'} (h : M.EachStep Q s (ls ++ ls')) : M.EachStep Q s ls := by
  rintro ls1 l ls2 u u' rfl r st
  exact h ls1 l (ls2 ++ ls') u u' (by simp) r st

/-- What every step with a known property keeps holds at the end of a run whose steps have it. -/
lemma Run.invariant_of {I : σ → Prop} {Q s ls t} (r : M.Run s ls t) (each : M.EachStep Q s ls)
    (keep : ∀ s l s', I s → Q s l s' → M.step s l = some s' → I s') (h : I s) : I t := by
  induction r with
  | nil => exact h
  | cons st _ ih =>
    rw [eachStep_cons st] at each
    exact ih each.2 (keep _ _ _ h each.1 st)

/-- Whether the labels lead, through steps that pass a test, to a state that passes another. -/
def check (M : Machine σ ι) (test : σ → ι → Bool) (final : σ → Bool) : σ → List ι → Bool
  | s, [] => final s
  | s, l :: ls => test s l && (M.step s l).any fun s' => M.check test final s' ls

/-- A checked list of labels is a run whose steps have the property that the test implies. -/
lemma run_of_check {test final} {Q : σ → ι → σ → Prop} {s ls}
    (sound : ∀ s l s', test s l = true → Q s l s') (h : M.check test final s ls = true) :
    ∃ t, M.Run s ls t ∧ final t = true ∧ M.EachStep Q s ls := by
  induction ls generalizing s with
  | nil =>
    refine ⟨s, .nil, h, ?_⟩
    intro ls1 l ls2 u u' e
    exact absurd e.symm (by simp)
  | cons l ls ih =>
    obtain ⟨passed, later⟩ := (Bool.and_eq_true _ _).mp h
    obtain ⟨s', st, later⟩ := (Option.any_eq_true _ _).mp later
    obtain ⟨t, r, done, each⟩ := ih later
    exact ⟨t, .cons st r, done, (eachStep_cons st).mpr ⟨sound _ _ _ passed, each⟩⟩

/-- The exact condition of a run: when, as long as `P` holds, a step keeps it exactly if the step
satisfies `Q`, then `P` holds throughout a run exactly if every step satisfies `Q`. -/
theorem Run.always_iff {I P : σ → Prop} {Q s ls t} (r : M.Run s ls t)
    (keepI : ∀ s l s', I s → M.step s l = some s' → I s')
    (exact : ∀ s l s', I s → P s → M.step s l = some s' → (P s' ↔ Q s l s'))
    (hI : I s) (hP : P s) : M.Always P s ls ↔ M.EachStep Q s ls := by
  induction r with
  | nil =>
    refine iff_of_true ?_ ?_
    · intro ls1 ls2 u e r
      obtain ⟨rfl, rfl⟩ := List.append_eq_nil_iff.mp e.symm
      cases r
      exact hP
    · intro ls1 l ls2 u u' e
      exact absurd e.symm (by simp)
  | cons st _ ih =>
    rw [always_cons st, eachStep_cons st, ← exact _ _ _ hI hP st]
    constructor
    · rintro ⟨_, later⟩
      have next := later [] _ _ rfl .nil
      exact ⟨next, (ih (keepI _ _ _ hI st) next).mp later⟩
    · rintro ⟨next, later⟩
      exact ⟨hP, (ih (keepI _ _ _ hI st) next).mpr later⟩

/-- The exact condition of a run when, besides what has to hold throughout, every step has to have a
property that follows from the condition. -/
theorem Run.always_and_iff {I P : σ → Prop} {Q R s ls t} (r : M.Run s ls t)
    (keepI : ∀ s l s', I s → M.step s l = some s' → I s')
    (exact : ∀ s l s', I s → P s → M.step s l = some s' → (P s' ↔ Q s l s'))
    (also : ∀ s l s', I s → P s → M.step s l = some s' → Q s l s' → R s l s')
    (hI : I s) (hP : P s) : M.Always P s ls ∧ M.EachStep R s ls ↔ M.EachStep Q s ls := by
  constructor
  · rintro ⟨always, _⟩
    exact (r.always_iff keepI exact hI hP).mp always
  · intro each
    have always := (r.always_iff keepI exact hI hP).mpr each
    refine ⟨always, ?_⟩
    intro ls1 l ls2 u u' e r' st
    have inv : I u := r'.invariant keepI hI
    have holds : P u := always ls1 (l :: ls2) u e r'
    exact also u l u' inv holds st (each ls1 l ls2 u u' e r' st)

/-- Forward simulation: when every step of `M` is matched by a step of `N` between related states,
every run of `M` is matched by a run of `N` over related labels. -/
theorem Run.simulate {N : Machine τ κ} {R : σ → τ → Prop} {L : ι → κ → Prop} {s s' ls t}
    (r : M.Run s ls s')
    (match_step : ∀ s l s' t, R s t → M.step s l = some s' →
      ∃ k t', L l k ∧ N.step t k = some t' ∧ R s' t')
    (h : R s t) : ∃ ks t', List.Forall₂ L ls ks ∧ N.Run t ks t' ∧ R s' t' := by
  induction r generalizing t with
  | nil => exact ⟨[], t, .nil, .nil, h⟩
  | cons st _ ih =>
    obtain ⟨k, t1, hl, st', h1⟩ := match_step _ _ _ _ h st
    obtain ⟨ks, t', hls, r', h'⟩ := ih h1
    exact ⟨k :: ks, t', .cons hl hls, .cons st' r', h'⟩

end Machine

end SentinelOps
