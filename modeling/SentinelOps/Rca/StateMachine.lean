import Mathlib.Data.List.Destutter
import SentinelOps.Rca.Domain

/-!
# The declared state machine of an investigation

The transition table and the paths in it. `FollowsStateMachine` is about the distinct consecutive
statuses of a sequence, so a status that is set again does not count as a transition;
`followsStateMachine_snoc` extends a path by one status.
-/

namespace SentinelOps

section
variable {α : Type*} [DecidableEq α] {R : α → α → Prop}

/-- What is kept of a list starts with its first element. -/
lemma destutter'_head (a : α) (l : List α) : ∃ t, l.destutter' (· ≠ ·) a = a :: t := by
  induction l with
  | nil => exact ⟨[], rfl⟩
  | cons b l ih =>
    by_cases h : a ≠ b
    · exact ⟨_, List.destutter'_cons_pos _ h⟩
    · rw [List.destutter'_cons_neg _ h]
      exact ih

/-- The distinct consecutive elements are related exactly when neighbours are equal or related. -/
lemma isChain_destutter' {a : α} {l : List α} :
    (l.destutter' (· ≠ ·) a).IsChain R ↔ (a :: l).IsChain fun x y => x = y ∨ R x y := by
  induction l generalizing a with
  | nil => simp
  | cons b l ih =>
    rw [List.isChain_cons_cons, ← ih]
    by_cases h : a = b
    · cases h
      rw [List.destutter'_cons_neg _ (by simp)]
      simp
    · rw [List.destutter'_cons_pos _ h]
      obtain ⟨t, starts⟩ := destutter'_head b l
      rw [starts, List.isChain_cons_cons]
      simp [h]

/-- The same for a whole list. -/
lemma isChain_destutter {l : List α} :
    (l.destutter (· ≠ ·)).IsChain R ↔ l.IsChain fun x y => x = y ∨ R x y := by
  cases l with
  | nil => simp
  | cons a l => exact isChain_destutter'

end

namespace Rca

/-- `_ALLOWED`. -/
def allowedTransitions : InvestigationStatus → List InvestigationStatus
  | .pending => [.planning, .failed]
  | .planning => [.collectingEvidence, .insufficientEvidence, .failed, .timedOut]
  | .collectingEvidence =>
    [.collectingEvidence, .analyzing, .insufficientEvidence, .failed, .timedOut]
  | .analyzing => [.analyzing, .verifying, .insufficientEvidence, .failed, .timedOut]
  | .verifying => [.analyzing, .completed, .insufficientEvidence, .failed, .timedOut]
  | .completed | .insufficientEvidence | .failed | .timedOut => []

/-- `can_transition`. -/
def canTransition (current target : InvestigationStatus) : Bool :=
  decide (target ∈ allowedTransitions current)

/-- The distinct consecutive statuses are a path in the table. -/
def FollowsStateMachine (statuses : List InvestigationStatus) : Prop :=
  (statuses.destutter (· ≠ ·)).IsChain fun a b => canTransition a b = true

/-- A path extended by one status: the status stays or the table allows the transition. -/
lemma followsStateMachine_snoc {statuses : List InvestigationStatus} {current target}
    (last : statuses.getLast? = some current) :
    FollowsStateMachine (statuses ++ [target]) ↔
      FollowsStateMachine statuses ∧ (current = target ∨ canTransition current target = true) := by
  unfold FollowsStateMachine
  rw [isChain_destutter, isChain_destutter, List.isChain_append]
  simp [last]

/-- The beginning of a path is a path. -/
lemma FollowsStateMachine.of_prefix {statuses statuses' : List InvestigationStatus}
    (h : FollowsStateMachine statuses') (initial : statuses <+: statuses') :
    FollowsStateMachine statuses := by
  unfold FollowsStateMachine at h ⊢
  rw [isChain_destutter] at h ⊢
  exact h.infix initial.isInfix

/-- An investigation that is under way may fail. -/
lemma canTransition_failed {current : InvestigationStatus} (active : current.isTerminal = false) :
    canTransition current .failed = true := by
  cases current with
  | pending | planning | collectingEvidence | analyzing | verifying => decide
  | completed | insufficientEvidence | failed | timedOut => cases active

end Rca

end SentinelOps
