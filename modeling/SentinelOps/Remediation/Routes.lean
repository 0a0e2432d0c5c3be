import SentinelOps.Remediation.Service

/-!
# The decision routes

`POST /remediations/{id}/approve` and `…/reject`: the role a user must have, the call of `decide`
that a request becomes (`decideCall`) and the HTTP status its end is answered with (`answer`). An
exception that `_decide` does not catch is answered by the framework, with 500.
-/

namespace SentinelOps.Remediation

/-- `AuthenticatedUser`. -/
structure AuthenticatedUser where
  username : String
  role : String

/-- `ranks.get(role, -1)`. -/
def roleRank (role : String) : Int :=
  if role = "viewer" then 0 else if role = "approver" then 1 else if role = "admin" then 2 else -1

/-- `require_role`: whether a user is let through. -/
def requireRole (role : String) (user : AuthenticatedUser) : Bool :=
  decide (roleRank role ≤ roleRank user.role)

/-- What the routes read of an `ApprovalRequest`. -/
structure ApprovalRequestFields where
  reason : String := ""

instance : Schema ApprovalRequestFields where
  Valid b := b.reason.length ≤ 1000
  decidable _ := inferInstanceAs (Decidable (_ ≤ _))

/-- The body of a decision. -/
abbrev ApprovalRequest := Validated ApprovalRequestFields

/-- `_correlation_id`, of the header `x-request-id`. -/
def correlationIdOf (header : Option String) : Option String :=
  (header.filter fun value => value ≠ "").map (Py.takeFirst 64)

/-- A request to one of the decision routes, with the clock and the random tokens of its call. -/
structure DecisionPost where
  remediationId : String
  decision : ApprovalDecision
  user : AuthenticatedUser
  body : ApprovalRequest
  requestId : Option String := none
  now : Instant
  token : Token
  decidedToken : Token

/-- The call of `decide` that `_decide` makes. -/
def DecisionPost.decideCall (p : DecisionPost) : DecideRequest where
  remediationId := p.remediationId
  decision := p.decision
  approverIdentity := p.user.username
  approverRole := if p.user.role = "admin" then .administrator else .incidentResponder
  reason := p.body.val.reason
  now := p.now
  correlationId := correlationIdOf p.requestId
  token := p.token
  decidedToken := p.decidedToken

/-- The status `_decide` answers an exception with, or the framework for one it does not catch. -/
def decisionErrorStatus : ErrorClass → Nat
  | .notFound => 404
  | .unauthorizedApprover => 403
  | .invalidState | .expired | .policyBlocked => 409
  | _ => 500

/-- The status a call of a decision route has been answered with. -/
def Phase.answer : Phase → Option Nat
  | .returned _ => some 200
  | .raised e => some (decisionErrorStatus e.cls)
  | _ => none

/-- A truncated header is within the bound of a correlation id. -/
lemma length_correlationIdOf_le {header} : ∀ c ∈ correlationIdOf header, c.length ≤ 64 := by
  intro c hc
  obtain ⟨value, _, rfl⟩ := Option.mem_map.mp hc
  exact Py.length_takeFirst_le

/-- A call that has been answered takes no step. -/
lemma stepCall_answered {σ : Type} {cfg} {repo : Repository σ} {env} {u : World σ} {req ph}
    (h : ph.answer ≠ none) : stepCall cfg repo env u req ph = none := by
  cases ph with
  | returned response => cases req <;> rfl
  | raised e => cases req <;> rfl
  | _ => exact absurd rfl h

end SentinelOps.Remediation
