import SentinelOps.Remediation.Vocabulary
import SentinelOps.Lib.Fallible
import SentinelOps.Lib.PyText

/-!
# The remediation lifecycle

The adjacency of the lifecycle state machine and its guard `validateTransition`. The three
assertions the module makes when it is loaded are `executing_predecessor`,
`verifying_predecessor` and `recovery_predecessor`: each late state has one way in, so none of them
can be reached around the state before it.
-/

namespace SentinelOps.Remediation

/-- `_ALLOWED`. -/
def allowedTransitions : RemediationStatus → List RemediationStatus
  | .proposed => [.policyEvaluation, .blocked]
  | .policyEvaluation => [.pendingApproval, .blocked]
  | .pendingApproval => [.approved, .rejected, .expired]
  | .approved => [.executing, .expired]
  | .executing => [.executed, .executionFailed]
  | .executed => [.verifying]
  | .verifying => [.recovered, .recoveryFailed]
  | .blocked | .rejected | .expired | .executionFailed | .recovered | .recoveryFailed => []

/-- `can_transition`. -/
def canTransition (current target : RemediationStatus) : Bool :=
  decide (target ∈ allowedTransitions current)

/-- `repr` of a status. -/
def reprStatus (s : RemediationStatus) : String :=
  "<RemediationStatus." ++ str s ++ ": " ++ Py.repr (str s) ++ ">"

/-- What the refusal of a transition lists as allowed. -/
def allowedText (current : RemediationStatus) : String :=
  if allowedTransitions current = [] then "none - terminal"
  else
    let sorted := (allowedTransitions current).mergeSort fun a b => Py.strLe (str a) (str b)
    "[" ++ Py.join ", " (sorted.map reprStatus) ++ "]"

/-- `validate_transition`: raise unless the adjacency has the edge. -/
def validateTransition (current target : RemediationStatus) : Except Error Unit :=
  ensure (canTransition current target = true)
    ⟨.invalidTransition, s!"cannot move remediation from {str current} to {str target} (allowed: " ++
      allowedText current ++ ")"⟩

/-- `EXECUTING` is reachable only from `APPROVED`. -/
lemma executing_predecessor {s} (h : canTransition s .executing = true) : s = .approved := by
  cases s <;> first | rfl | cases h

/-- `VERIFYING` is reachable only from `EXECUTED`. -/
lemma verifying_predecessor {s} (h : canTransition s .verifying = true) : s = .executed := by
  cases s <;> first | rfl | cases h

/-- The recovery verdicts are reachable only from `VERIFYING`. -/
lemma recovery_predecessor {s}
    (h : canTransition s .recovered = true ∨ canTransition s .recoveryFailed = true) :
    s = .verifying := by
  cases s <;> first | rfl | (rcases h with h | h <;> cases h)

/-- The statuses no transition leaves. -/
def RemediationStatus.isTerminal (s : RemediationStatus) : Bool :=
  match s with
  | .blocked | .rejected | .expired | .executionFailed | .recovered | .recoveryFailed => true
  | _ => false

/-- The terminal statuses are exactly those without a successor. -/
lemma isTerminal_iff {s : RemediationStatus} : s.isTerminal = true ↔ allowedTransitions s = [] := by
  cases s <;> simp [RemediationStatus.isTerminal, allowedTransitions]

end SentinelOps.Remediation
