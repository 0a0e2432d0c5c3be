import SentinelOps.Remediation.Backend

/-!
# Lifecycle safety

`lifecycle_safety`: in every reachable state of either repository, a remediation that is approved or
beyond carries an `ALLOW` decision and exactly one sufficient and timely approval, has an execution
exactly from `EXECUTING` on and a verification exactly from `VERIFYING` on, each in the matching
status; and one that was ever blocked or rejected never has an execution.
-/

namespace SentinelOps.Remediation

/-- The statuses from `APPROVED` on. -/
def approvedOrLater : List RemediationStatus :=
  [.approved, .executing, .executed, .executionFailed, .verifying, .recovered, .recoveryFailed]

/-- The statuses from `EXECUTING` on. -/
def executingOrLater : List RemediationStatus :=
  [.executing, .executed, .executionFailed, .verifying, .recovered, .recoveryFailed]

/-- The statuses from `VERIFYING` on. -/
def verifyingOrLater : List RemediationStatus := [.verifying, .recovered, .recoveryFailed]

/-- A remediation has an execution status exactly from `EXECUTING` on. -/
lemma executionStatusOf_ne_none {s} : executionStatusOf s ≠ none ↔ s ∈ executingOrLater := by
  cases s <;> simp [executionStatusOf, executingOrLater]

/-- A remediation has a verification status exactly from `VERIFYING` on. -/
lemma verificationStatusOf_ne_none {s} : verificationStatusOf s ≠ none ↔ s ∈ verifyingOrLater := by
  cases s <;> simp [verificationStatusOf, verifyingOrLater]

/-- No transition leads back from `EXECUTING` or later. -/
lemma executingOrLater_next {s t} (edge : canTransition s t = true) (hs : s ∈ executingOrLater) :
    t ∈ executingOrLater := by
  have closed : ∀ s ∈ executingOrLater, ∀ t ∈ allowedTransitions s, t ∈ executingOrLater := by
    decide
  exact closed s hs t (of_decide_eq_true edge)

/-- Nothing leads back from `EXECUTING` or later. -/
lemma LeadsTo.executingOrLater {s t} (h : LeadsTo s t) (hs : s ∈ executingOrLater) :
    t ∈ Remediation.executingOrLater := by
  induction h with
  | refl => exact hs
  | tail _ edge ih => exact executingOrLater_next edge ih

/-- The decision and the approval of a remediation that is approved or beyond. -/
structure Authorized (b : Backend) (store : b.Store) (rid : String) (rec : RemediationRecord)
    (a : RemediationApproval) : Prop where
  allowed : rec.policyDecision.outcome = .allow
  recorded : rec.approval = some a
  only : b.approvals store rid = [approvalToRow rid a]
  approve : a.val.decision = .approve
  sufficient : (actionCatalogue rec.proposal.val.actionType).riskLevel ∈
    approvalMatrix a.val.approverRole
  inTime : a.val.decidedAt < rec.proposal.val.expiresAt

/-- The rows a remediation has agree with its status. -/
structure LifecycleSafe (b : Backend) (store : b.Store) (rid : String) (rec : RemediationRecord) :
    Prop where
  authorized : rec.status ∈ approvedOrLater → ∃ a, Authorized b store rid rec a
  execution : b.executions store rid ≠ [] ↔ rec.status ∈ executingOrLater
  executionStatus : ∀ row ∈ b.executions store rid,
    ∃ st, executionStatusOf rec.status = some st ∧ row.status = str st
  verification : b.verifications store rid ≠ [] ↔ rec.status ∈ verifyingOrLater
  verificationStatus : ∀ row ∈ b.verifications store rid,
    ∃ st, verificationStatusOf rec.status = some st ∧ row.status = str st

/-- An approved record in order carries a sufficient and timely approval. -/
lemma RecordOk.authorized {rec} (h : RecordOk rec) (hs : rec.status ∈ approvedOrLater) :
    rec.policyDecision.outcome = .allow ∧ ∃ a, rec.approval = some a ∧
      a.val.decision = .approve ∧
      (actionCatalogue rec.proposal.val.actionType).riskLevel ∈ approvalMatrix a.val.approverRole ∧
      a.val.decidedAt < rec.proposal.val.expiresAt := by
  have live : rec.status ≠ .pendingApproval ∧ rec.status ≠ .blocked ∧ rec.status ≠ .rejected := by
    refine ⟨?_, ?_, ?_⟩ <;> (intro e; rw [e] at hs; simp [approvedOrLater] at hs)
  obtain ⟨a, ha, dec⟩ := h.decision live.1 live.2.1
  have pol := h.policy
  rw [if_neg live.2.1] at pol
  have approve := dec.decision
  rw [if_neg live.2.2] at approve
  have role := dec.role approve
  unfold canApprove at role
  exact ⟨pol, a, ha, approve, of_decide_eq_true role, dec.inTime⟩

/-- The rows of an optional part are there exactly when the part is. -/
lemma rows_ne_nil {α β : Type} {x : Option α} {f : α → β} : x.toList.map f ≠ [] ↔ x ≠ none := by
  cases x <;> simp

/-- A record in order, looked at through the rows of its repository, is safe. -/
lemma RecordOk.lifecycleSafe {cfg b} {w : World (Backend.Store b)} {v rid rec}
    (abs : b.Abstracts w v) (inv : Inv cfg v) (found : v.store.get rid = some rec) :
    LifecycleSafe b w.store rid rec := by
  have ok := inv.store.records rid rec found
  have ha := abs.approvals rid
  have he := abs.executions rid
  have hv := abs.verifications rid
  rw [found] at ha he hv
  refine ⟨?_, ?_, ?_, ?_, ?_⟩
  · intro hs
    obtain ⟨pol, a, e, approve, role, inTime⟩ := ok.authorized hs
    refine ⟨a, pol, e, ?_, approve, role, inTime⟩
    rw [ha, Option.bind_some, e]
    rfl
  · rw [he, rows_ne_nil, ← executionStatusOf_ne_none, ← ok.execution]
    simp
  · intro row hrow
    rw [he, Option.bind_some] at hrow
    obtain ⟨x, hx, rfl⟩ := List.mem_map.mp hrow
    refine ⟨x.val.status, ?_, rfl⟩
    rw [← ok.execution, Option.mem_toList.mp hx]
    rfl
  · rw [hv, rows_ne_nil, ← verificationStatusOf_ne_none, ← ok.verification]
    simp
  · intro row hrow
    rw [hv, Option.bind_some] at hrow
    obtain ⟨x, hx, rfl⟩ := List.mem_map.mp hrow
    refine ⟨x.val.status, ?_, rfl⟩
    rw [← ok.verification, Option.mem_toList.mp hx]
    rfl

/-- No execution row of a remediation whose record is absent or not executing yet. -/
lemma executions_eq_nil {cfg b} {w : World (Backend.Store b)} {v rid} (abs : b.Abstracts w v)
    (inv : Inv cfg v) (early : ∀ rec, v.store.get rid = some rec → rec.status ∉ executingOrLater) :
    b.executions w.store rid = [] := by
  cases found : v.store.get rid with
  | none =>
    rw [abs.executions, found]
    rfl
  | some rec =>
    by_contra h
    exact early rec found ((RecordOk.lifecycleSafe abs inv found).execution.mp h)

/-- Lifecycle safety, in every reachable state and over every run from it. -/
theorem lifecycle_safety (b : Backend) (cfg : ServiceConfig) (w : World b.Store)
    (reach : (b.service cfg).Reachable w) (rid : String) :
    (∃ found, b.lookup w.store rid = .ok found ∧ ∀ rec ∈ found, LifecycleSafe b w.store rid rec) ∧
    ∀ ls w', (b.service cfg).Run w ls w' →
      (∀ rec, b.lookup w.store rid = .ok (some rec) →
        rec.status = .blocked ∨ rec.status = .rejected → b.executions w'.store rid = []) ∧
      (∀ rec, b.lookup w'.store rid = .ok (some rec) →
        rec.status = .blocked ∨ rec.status = .rejected → b.executions w.store rid = []) := by
  obtain ⟨v, rel, inv, _⟩ := Backend.related_of_reachable reach
  have abs := rel.abstracts inv
  refine ⟨⟨v.store.get rid, abs.lookup rid, ?_⟩, ?_⟩
  · intro rec found
    exact RecordOk.lifecycleSafe abs inv found
  · intro ls w' r
    obtain ⟨ks, v', _, r', rel', inv'⟩ := rel.run inv r
    have abs' := rel'.abstracts inv'
    constructor
    · intro rec found refused
      have found' : v.store.get rid = some rec :=
        Except.ok.inj ((abs.lookup rid).symm.trans found)
      apply executions_eq_nil abs' inv'
      intro rec' later
      obtain ⟨rec1, found1, ev⟩ := inv.run_evolves r' found'
      cases Option.some.inj (found1.symm.trans later)
      have still : rec'.status = rec.status := by
        apply ev.status.of_terminal
        rcases refused with e | e <;> rw [e] <;> rfl
      rw [still]
      rcases refused with e | e <;> rw [e] <;> simp [executingOrLater]
    · intro rec found refused
      have found' : v'.store.get rid = some rec :=
        Except.ok.inj ((abs'.lookup rid).symm.trans found)
      apply executions_eq_nil abs inv
      intro rec0 earlier executing
      obtain ⟨rec1, found1, ev⟩ := inv.run_evolves r' earlier
      cases Option.some.inj (found1.symm.trans found')
      have late := ev.status.executingOrLater executing
      rcases refused with e | e <;> rw [e] at late <;> simp [executingOrLater] at late

/-- The status of a remediation, when it is there. -/
def Backend.statusOf (b : Backend) (store : b.Store) (rid : String) : Option RemediationStatus :=
  match b.lookup store rid with
  | .ok found => found.map (·.status)
  | .error _ => none

/-- A known status is the status of a stored record. -/
lemma Backend.statusOf_eq_some {b : Backend} {store : b.Store} {rid st}
    (h : b.statusOf store rid = some st) :
    ∃ rec, b.lookup store rid = .ok (some rec) ∧ rec.status = st := by
  unfold statusOf at h
  split at h
  · rename_i found e
    obtain ⟨rec, rfl, hs⟩ := Option.map_eq_some_iff.mp h
    exact ⟨rec, e, hs⟩
  · cases h

/-- A configuration whose word characters are those of ASCII. -/
def asciiConfig : ServiceConfig where
  isWord c := c.isAlphanum || c == '_'

/-- A world before any call. -/
def emptyWorld (b : Backend) : World b.Store where
  store := b.repository.empty
  sim := .empty

/-- A world before any call is an initial one. -/
lemma emptyWorld_init {b cfg} : (Backend.service b cfg).init (emptyWorld b) :=
  ⟨rfl, rfl, rfl⟩

instance sixteen : NeZero 16 := ⟨by decide⟩

/-- The digits below sixteen are hexadecimal. -/
lemma isHex_digitChar {n : Fin 16} : isHex (Nat.digitChar n) = true := by
  revert n
  decide

/-- The token that ends in two hexadecimal digits and is otherwise zero. -/
def Token.digits (k n : Fin 16) : Token where
  text := String.ofList (List.replicate 14 '0' ++ [Nat.digitChar k, Nat.digitChar n])
  hex := by
    refine ⟨?_, ?_⟩
    · have zero : isHex '0' = true := by decide
      change List.all _ isHex = true
      simp [isHex_digitChar, zero]
    · simp [← String.length_toList]

/-- A recommendation to restart the one service there is. -/
def restartAdvice : RcaRecommendedActionInput where
  val := { actionType := "RESTART_SERVICE", targetService := some "orders-service" }
  valid := by decide

/-- A proposal to restart the service, made at a time in seconds. -/
def proposeRestart (incidentId : String) (n : Fin 16) (at' : Int) : Request :=
  .propose
    { incidentId
      recommendation := restartAdvice
      incidentSeverity := some "HIGH"
      now := seconds at'
      token := .digits 0 n
      createdToken := .digits 1 n
      evaluatedToken := .digits 2 n
      blockedToken := .digits 3 n }

/-- A responder's decision on a remediation, made at a time in seconds. -/
def decideOn (n : Fin 16) (decision : ApprovalDecision) (at' : Int) : Request :=
  .decide
    { remediationId := newRemediationId (.digits 0 n)
      decision
      approverIdentity := "responder"
      approverRole := .incidentResponder
      now := seconds at'
      token := .digits 0 n
      decidedToken := .digits 4 n }

/-- The execution of a remediation at a time in seconds. -/
def executeOn (n : Fin 16) (dryRun : Bool) (at' : Int) : Request :=
  .execute
    { remediationId := newRemediationId (.digits 0 n)
      dryRun
      now := seconds at'
      token := .digits 0 n
      requestedToken := .digits 5 n
      startedToken := .digits 6 n
      finishedToken := .digits 7 n }

/-- The verification of a remediation at a time in seconds. -/
def verifyOn (n : Fin 16) (at' : Int) : Request :=
  .verifyRecovery
    { remediationId := newRemediationId (.digits 0 n)
      now := seconds at'
      token := .digits 0 n
      startedToken := .digits 8 n
      finishedToken := .digits 9 n }

/-- A call that runs on without interruption. -/
def alone (i : Nat) (r : Request) (steps : Nat) : List Label :=
  .call r :: List.replicate steps (.advance i {})

/-- A call that was started last has not taken a step yet. -/
lemma last_call {b : Backend} {cfg : ServiceConfig} {w u : World b.Store} {ls r n}
    (run : (b.service cfg).Run w (ls ++ [.call r]) u) (count : u.calls.length = n + 1) :
    u.calls[n]? = some { request := r, phase := .started } := by
  obtain ⟨t, _, last⟩ := run.cut
  cases last with
  | cons st rest =>
    cases rest
    cases st
    have before : t.calls.length = n := by simpa using count
    change (t.calls ++ _)[n]? = _
    rw [← before, List.getElem?_concat_length]

/-- Two incidents: one restart is proposed and approved, the other proposed and rejected. -/
def approveAndReject : List Label :=
  alone 0 (proposeRestart "inc_000000000000000a" 0 0) 2 ++ alone 1 (proposeRestart "inc_000000000000000b" 1 0) 2 ++
    alone 2 (decideOn 0 .approve 10) 2 ++ alone 3 (decideOn 1 .reject 10) 2

/-- Both restarts are then requested to be executed. -/
def executeBoth : List Label :=
  alone 4 (executeOn 0 false 20) 4 ++ alone 5 (executeOn 1 false 20) 1

/-- The approved restart is rehearsed before. -/
def rehearse : List Label := [.call (executeOn 0 true 15)]

set_option maxRecDepth 10000 in
/-- The states the two incidents pass through. -/
lemma approveAndReject_states :
    ((Backend.inMemory.service asciiConfig).exec (emptyWorld .inMemory) approveAndReject).any
      (fun w => Backend.inMemory.statusOf w.store "rem_0000000000000000" = some .approved ∧
        Backend.inMemory.statusOf w.store "rem_0000000000000001" = some .rejected ∧
        w.calls.length = 4 ∧
        ((Backend.inMemory.service asciiConfig).exec w executeBoth).any
          (fun w' => Backend.inMemory.statusOf w'.store "rem_0000000000000000" = some .executed ∧
            w'.invocations = [⟨4, "rem_0000000000000000", false⟩]) = true ∧
        ((Backend.inMemory.service asciiConfig).exec w rehearse).any
          (fun v => v.calls.length = 5 ∧
            ((Backend.inMemory.service asciiConfig).step v (.advance 4 {})).isSome = true) = true) =
      true := by
  decide +kernel

/-- The approved incident is authorized, and the rejected one has no execution when both have been
requested to be executed. -/
theorem lifecycle_safety_approveAndReject :
    ∃ w w' rec a, (Backend.inMemory.service asciiConfig).Run (emptyWorld .inMemory)
        approveAndReject w ∧
      (Backend.inMemory.service asciiConfig).Run w executeBoth w' ∧
      Backend.inMemory.lookup w.store "rem_0000000000000000" = .ok (some rec) ∧
      rec.status = .approved ∧ Authorized .inMemory w.store "rem_0000000000000000" rec a ∧
      Backend.inMemory.statusOf w'.store "rem_0000000000000000" = some .executed ∧
      Backend.inMemory.executions w'.store "rem_0000000000000001" = [] := by
  obtain ⟨w, run, facts⟩ := (Option.any_eq_true _ _).mp approveAndReject_states
  obtain ⟨approved, rejected, _, later, _⟩ := of_decide_eq_true facts
  obtain ⟨w', run', executed⟩ := (Option.any_eq_true _ _).mp later
  have r := Machine.run_iff_exec.mpr run
  have r' := Machine.run_iff_exec.mpr run'
  have reach : (Backend.inMemory.service asciiConfig).Reachable w :=
    (Machine.Reachable.init emptyWorld_init).run r
  obtain ⟨rec, found, st⟩ := Backend.statusOf_eq_some approved
  obtain ⟨rec1, found1, st1⟩ := Backend.statusOf_eq_some rejected
  obtain ⟨⟨rec', found', safe⟩, _⟩ :=
    lifecycle_safety .inMemory asciiConfig w reach "rem_0000000000000000"
  obtain ⟨_, never⟩ := lifecycle_safety .inMemory asciiConfig w reach "rem_0000000000000001"
  have same : rec' = some rec := Except.ok.inj (found'.symm.trans found)
  obtain ⟨a, auth⟩ := (safe rec same).authorized (by rw [st]; decide)
  exact ⟨w, w', rec, a, r, r', found, st, auth, (of_decide_eq_true executed).1,
    (never _ w' r').1 rec1 found1 (.inr st1)⟩

end SentinelOps.Remediation
