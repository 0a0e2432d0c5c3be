import SentinelOps.IncidentCorrelator.Domain
import SentinelOps.Lib.Fallible

/-!
# The incident state machine

The table of the allowed transitions and the check that the API makes. A history is a path of the
machine (`IsPath`) when its first entry opens the incident and every later one takes an allowed
edge from where the entry before it ended.
-/

namespace SentinelOps.IncidentCorrelator

/-- `_ALLOWED`. -/
def allowedTransitions : IncidentStatus → List IncidentStatus
  | .open => [.acknowledged, .investigating, .resolved]
  | .acknowledged => [.investigating, .resolved]
  | .investigating => [.mitigating, .resolved]
  | .mitigating => [.resolved]
  | .resolved => []

/-- `can_transition`: the system may also resolve every active incident. -/
def canTransition (current target : IncidentStatus) (actor : String) : Bool :=
  if actor = "system" ∧ target = .resolved ∧ current.isActive = true then true
  else decide (target ∈ allowedTransitions current)

/-- `validate_transition`. -/
def validateTransition (current target : IncidentStatus) (actor : String) : Except Error Unit :=
  let allowed := Py.sortedStr ((allowedTransitions current).map str)
  ensure (canTransition current target actor = true)
    ⟨.invalidTransition, "InvalidTransitionError",
      s!"cannot move incident from {str current} to {str target} (allowed: "
        ++ (if allowed = [] then "none - terminal" else Py.reprList allowed) ++ ")"⟩

/-- The system may do nothing that the table does not allow. -/
lemma canTransition_iff {current target actor} :
    canTransition current target actor = true ↔ target ∈ allowedTransitions current := by
  unfold canTransition
  split
  · rename_i h
    obtain ⟨_, rfl, active⟩ := h
    cases current with
    | resolved => cases active
    | _ => decide
  · exact decide_eq_true_iff

/-- A check that passes. -/
lemma validateTransition_ok {current target actor u} :
    validateTransition current target actor = .ok u ↔ target ∈ allowedTransitions current := by
  rw [← @canTransition_iff current target actor]
  exact ensure_eq_ok

/-- The entry takes an allowed edge. -/
def AllowedEdge (t : StateTransition) : Prop :=
  ∃ s ∈ t.fromStatus, t.toStatus ∈ allowedTransitions s

/-- A path of the machine from a status on: every entry takes an allowed edge from where the one
before it ended. -/
inductive PathFrom : IncidentStatus → List StateTransition → IncidentStatus → Prop where
  | nil {s} :
    PathFrom s [] s
  | cons {s t ts u} :
    t.fromStatus = some s →
    t.toStatus ∈ allowedTransitions s →
    PathFrom t.toStatus ts u →
    PathFrom s (t :: ts) u

/-- A history is a path of the machine that starts at `OPEN` and ends in the given status. -/
def IsPath (history : List StateTransition) (s : IncidentStatus) : Prop :=
  ∃ t ts, history = t :: ts ∧ t.fromStatus = none ∧ t.toStatus = .open ∧ PathFrom .open ts s

/-- A path extended by one allowed edge. -/
lemma PathFrom.snoc {s ts u t} (h : PathFrom s ts u) (from' : t.fromStatus = some u)
    (allowed : t.toStatus ∈ allowedTransitions u) : PathFrom s (ts ++ [t]) t.toStatus := by
  induction h with
  | nil => exact .cons from' allowed .nil
  | cons f a _ ih => exact .cons f a (ih from' allowed)

/-- A history extended by one allowed edge. -/
lemma IsPath.snoc {history u t} (h : IsPath history u) (from' : t.fromStatus = some u)
    (allowed : t.toStatus ∈ allowedTransitions u) : IsPath (history ++ [t]) t.toStatus := by
  obtain ⟨t0, ts, rfl, f0, o0, path⟩ := h
  exact ⟨t0, ts ++ [t], rfl, f0, o0, path.snoc from' allowed⟩

/-- The history of a new incident. -/
lemma IsPath.opened {t : StateTransition} (from' : t.fromStatus = none) (to' : t.toStatus = .open) :
    IsPath [t] .open :=
  ⟨t, [], rfl, from', to', .nil⟩

/-- Every entry of a path takes an allowed edge. -/
lemma PathFrom.allowed {s ts u} (h : PathFrom s ts u) : ∀ t ∈ ts, AllowedEdge t := by
  induction h with
  | nil => simp
  | cons f a _ ih =>
    intro t ht
    rcases List.mem_cons.mp ht with rfl | ht
    · exact ⟨_, f, a⟩
    · exact ih t ht

end SentinelOps.IncidentCorrelator
