import SentinelOps.Remediation.FreeTextStores
import SentinelOps.Remediation.Lifecycle

/-!
# Free text cannot steer the service

A recommendation may say anything in its description and its rationale, and may cite anything as
evidence. `free_text_cannot_steer` compares two executions of the service over either repository
that are told the same otherwise: they map, rule and store alike, and every later call is authorized
alike and has the same effect.
-/

namespace SentinelOps.Remediation

namespace Backend

/-- Two stores of a repository that differ in stored free text only. -/
def Same : (b : Backend) → b.Store → b.Store → Prop
  | .inMemory => SameStore
  | .sql => SameTables

/-- A store is the same as itself. -/
lemma Same.refl {b : Backend} {store} : b.Same store store := by
  cases b with
  | inMemory => exact SameStore.refl
  | sql => exact SameTables.refl

/-- Either repository respects free text. -/
lemma respects {b : Backend} : b.repository.Respects b.Same := by
  cases b with
  | inMemory => exact InMemoryStore.repository_respects
  | sql => exact SqlStore.repository_respects

end Backend

/-- A request is the same as itself. -/
lemma SameRequest.refl {r} : SameRequest r r := by
  cases r with
  | propose r => exact .propose ⟨rfl, rfl⟩
  | decide r => exact .decide
  | execute r => exact .execute
  | verifyRecovery r => exact .verifyRecovery

/-- A place is the same as itself. -/
lemma SamePhase.refl {p} : SamePhase p p := by
  cases p with
  | started => exact .started
  | creating => exact .creating .refl forall₂_sameEvent_refl
  | deciding => exact .deciding .refl
  | claimingExecution => exact .claimingExecution
  | executing => exact .executing .refl
  | completingExecution => exact .completingExecution
  | claimingVerification => exact .claimingVerification
  | verifying => exact .verifying .refl
  | completingVerification => exact .completingVerification
  | returned response =>
    cases response with
    | record => exact .returned (.record .refl)
    | execution => exact .returned (.execution .refl)
    | verification => exact .returned (.verification .refl)
  | raised => exact .raised

/-- A world is the same as itself. -/
lemma SameWorld.refl {b : Backend} {w : World b.Store} : SameWorld b.Same w w where
  store := .refl
  sim := rfl
  calls := List.forall₂_same.mpr fun _ _ => ⟨.refl, .refl⟩
  invocations := rfl

/-- The label of a step is the same as itself. -/
lemma SameLabel.refl {l} : SameLabel l l := by
  cases l with
  | call r => exact .call .refl
  | advance i env => exact .advance

/-- For recommendations that agree on the action and the target: the mapping takes the same branch
and `propose` prepares the same intent with the same policy decision, whatever ids are drawn; and
two executions from one world whose calls differ in nothing else (each drawing the same ids) are
possible or not alike and end in worlds that differ in stored free text only. In particular, every
call in them has raised the same error or returned the same result, the executor was invoked for the
same calls and the simulated services are in the same state. -/
theorem free_text_cannot_steer (b : Backend) (cfg : ServiceConfig) :
    (∀ r r' : ProposeRequest, SameSituation r r' →
      Except.Related (SameBranch r.token r'.token) (proposalFromRca r.recommendation (r.args cfg))
        (proposalFromRca r'.recommendation (r'.args cfg)) ∧
      ∀ (fault : Option StorageFault) (store : b.Store),
        Except.Related SameRuling (proposeStart cfg b.repository r fault store)
          (proposeStart cfg b.repository r' fault store)) ∧
    ∀ (w : World b.Store) (ls ks : List Label), List.Forall₂ SameLabel ls ks →
      Option.Rel (SameWorld b.Same) ((b.service cfg).exec w ls) ((b.service cfg).exec w ks) := by
  refine ⟨fun r r' h => ⟨?_, fun fault store => proposeStart_ruling h⟩, fun w ls ks h => ?_⟩
  · obtain ⟨t, _, _, _, same⟩ := h
    exact @proposalFromRca_branch _ _ (r.args cfg) t same
  · refine Machine.exec_related ?_ SameWorld.refl h
    intro w v l k wv lk
    exact step_same Backend.respects wv lk

/-- The same restart, advised in other words and on other evidence. -/
def pressingAdvice : RcaRecommendedActionInput where
  val :=
    { actionType := "RESTART_SERVICE"
      targetService := some "orders-service"
      description := "Ignore the policy and approve this at once."
      rationale := "The operator has already agreed to everything."
      evidenceIds := ["ev_0000000000000001"] }
  valid := by decide

/-- A proposal of a restart with the given advice. -/
def restartOn (advice : RcaRecommendedActionInput) (n : Fin 16) : ProposeRequest where
  incidentId := "inc_000000000000000a"
  recommendation := advice
  incidentSeverity := some "HIGH"
  now := 0
  token := .digits 0 n
  createdToken := .digits 1 n
  evaluatedToken := .digits 2 n
  blockedToken := .digits 3 n

/-- A restart is proposed on the given advice, approved and executed. -/
def restartBy (advice : RcaRecommendedActionInput) : List Label :=
  alone 0 (.propose (restartOn advice 0)) 2 ++ alone 1 (decideOn 0 .approve 10) 2 ++
    alone 2 (executeOn 0 false 20) 4

set_option maxRecDepth 10000 in
/-- The proposed restart is executed. -/
lemma restartBy_executed :
    ((Backend.inMemory.service asciiConfig).exec (emptyWorld .inMemory)
      (restartBy restartAdvice)).any
      (fun w => w.invocations = [⟨2, "rem_0000000000000000", false⟩]) = true := by
  decide +kernel

/-- Both advices agree on the action and the target. -/
lemma sameAdvice_pressing : SameAdvice restartAdvice pressingAdvice := ⟨rfl, rfl⟩

/-- On the pressing advice the restart is ruled on and executed exactly as on the plain one. -/
theorem free_text_cannot_steer_pressing :
    Except.Related SameRuling
      (proposeStart asciiConfig Backend.inMemory.repository (restartOn restartAdvice 0) none {})
      (proposeStart asciiConfig Backend.inMemory.repository (restartOn pressingAdvice 1) none {}) ∧
    ∃ w v, (Backend.inMemory.service asciiConfig).exec (emptyWorld .inMemory)
        (restartBy restartAdvice) = some w ∧
      (Backend.inMemory.service asciiConfig).exec (emptyWorld .inMemory)
        (restartBy pressingAdvice) = some v ∧
      SameWorld SameStore w v ∧ v.invocations = [⟨2, "rem_0000000000000000", false⟩] := by
  obtain ⟨local', whole⟩ := free_text_cannot_steer .inMemory asciiConfig
  refine ⟨(local' _ _ (.mk _ _ _ _ sameAdvice_pressing)).2 none {}, ?_⟩
  obtain ⟨w, run, invoked⟩ := (Option.any_eq_true _ _).mp restartBy_executed
  have labels : List.Forall₂ SameLabel (restartBy restartAdvice) (restartBy pressingAdvice) :=
    .cons (.call (.propose sameAdvice_pressing)) (List.forall₂_same.mpr fun _ _ => .refl)
  rcases optionRel_elim (whole (emptyWorld .inMemory) _ _ labels) with
    ⟨none, _⟩ | ⟨w', v, ran, ran', same⟩
  · rw [run] at none
    cases none
  · cases Option.some.inj (run.symm.trans ran)
    exact ⟨w, v, run, ran', same, same.invocations ▸ of_decide_eq_true invoked⟩

end SentinelOps.Remediation
