import SentinelOps.Rca.StateMachine
import SentinelOps.Rca.Termination

/-!
# Investigations and the declared state machine

The nodes write statuses as literals and never consult the table. `Staged` says which status goes
with which node; two of the transitions that follow from it are missing in the table: the one from
PENDING to TIMED_OUT, when a limit stops the loading of the incident, and the one from PLANNING to
VERIFYING, when a count limit is exceeded before the planning. A run is a path in the table exactly
when neither happens.
-/

namespace SentinelOps.Rca

variable {β : Type} {deps : GraphDeps β} {env : NodeEnv β}

/-- The status in which a node is entered. -/
def entryStatus : Node → InvestigationStatus
  | .initialise => .pending
  | .plan => .planning
  | .collect => .collectingEvidence
  | .analyze => .analyzing
  | .verify | .synthesize | .validate => .verifying

/-- A report states one of the two analytical outcomes. -/
def Concludes (report : RCAReport) : Prop :=
  report.status = .completed ∨ report.status = .insufficientEvidence

/-- The status of an investigation goes with its place in the graph. -/
structure Staged (e : Engine) : Prop where
  last : e.statuses.getLast? = some e.state.status
  entered : ∀ node, e.position = .running node → e.state.status = entryStatus node
  final : e.position = .ended → e.state.status.isTerminal = true
  active : ∀ x, e.position = .raised x → e.state.status.isTerminal = false
  draft : ∀ report ∈ e.state.rca, Concludes report

/-- A new investigation is pending. -/
lemma staged_start : Staged (start deps) where
  last := rfl
  entered := by
    intro node standing
    cases standing
    rfl
  final finish := by cases finish
  active _ left := by cases left
  draft _ present := by cases present

/-- No status is terminal where a node is entered. -/
@[simp] lemma entryStatus_active {node} : (entryStatus node).isTerminal = false := by
  cases node <;> rfl

/-- The statuses after a node. -/
lemma statuses_after_ok {e : Engine} {node u m} :
    (e.after node (.ok u, m)).statuses = e.statuses ++ [u.status.getD e.state.status] := by
  simp [Engine.statuses]

/-- The statuses after an exception. -/
lemma statuses_after_error {e : Engine} {node x m} :
    (e.after node (.error x, m)).statuses = e.statuses ++ [e.state.status] := by
  simp [Engine.statuses]

/-- The draft of the engine concludes the investigation. -/
lemma buildRcaReport_concludes {m incident evidence findings hypotheses synthesis} :
    Concludes (buildRcaReport deps env m incident evidence findings hypotheses synthesis) := by
  unfold Concludes buildRcaReport
  dsimp only
  split
  · exact .inl rfl
  · exact .inr rfl

/-- The engine after an exception. -/
lemma Staged.raised {e : Engine} {node x m} (h : Staged e) (standing : e.position = .running node) :
    Staged (e.after node (.error x, m)) where
  last := by
    rw [statuses_after_error]
    simp
  entered _ goes := by cases goes
  final finish := by cases finish
  active _ _ := by
    rw [after_error]
    dsimp only
    rw [h.entered node standing]
    exact entryStatus_active
  draft := h.draft

/-- The engine after a terminal update. -/
lemma Staged.finish {e : Engine} {node status reason extra m} (h : Staged e)
    (final : status.isTerminal = true)
    (draft : ∀ report ∈ extra.rca, Concludes report) :
    Staged (e.after node (.ok (terminal status reason extra), m)) where
  last := by
    rw [statuses_after_ok]
    simp
  entered := by simp
  final _ := by simpa using final
  active := by simp
  draft report present := by
    obtain new | ⟨_, old⟩ := merge_rca.mp present
    · exact draft report new
    · exact h.draft report old

/-- The engine after an update that leads to another node. -/
lemma Staged.next {e : Engine} {node nxt u m} (h : Staged e)
    (status : u.status.getD e.state.status = entryStatus nxt) (next : u.next = some (some nxt))
    (draft : ∀ report ∈ u.rca, Concludes report) :
    Staged (e.after node (.ok u, m)) where
  last := by
    rw [statuses_after_ok]
    simp
  entered other goes := by
    simp only [after_ok, route_merge, status, next, entryStatus_active] at goes
    cases goes
    simpa using status
  final finish := by
    simp only [after_ok, route_merge, status, next, entryStatus_active] at finish
    cases finish
  active x left := by
    simp only [after_ok, route_merge, status, next, entryStatus_active] at left
    cases left
  draft report present := by
    obtain new | ⟨_, old⟩ := merge_rca.mp present
    · exact draft report new
    · exact h.draft report old

/-- A reply of the model that is an error ends the investigation or leaves the graph. -/
lemma Staged.refused {e : Engine} {node exc m} (h : Staged e)
    (standing : e.position = .running node) : Staged (e.after node (llmTerminal exc, m)) := by
  obtain ⟨status, reason, final, same⟩ | ⟨name, same⟩ := llmTerminal_cases exc
  · rw [same]
    refine h.finish ?_ ?_
    · obtain rfl | rfl := final <;> rfl
    · intro _ present
      cases present
  · rw [same]
    exact h.raised standing

/-- The steps that the table does not know are not taken: the incident is loaded before a limit is
exceeded and no count limit is exceeded before the planning. -/
def StaysInTable (deps : GraphDeps β) (e : Engine) (env : NodeEnv β) : Prop :=
  (e.position = .running .initialise → isIncidentId deps.incidentId = true →
    checkLimits (startedMeters deps env e.meters).usage deps.limits
      (env.callAt e.meters.usage.toolCalls) = .ok ()) ∧
  (e.position = .running .plan →
    ∀ kind, checkLimits e.meters.usage deps.limits env.guardAt = .error kind → kind = .time)

/-- The status stays with the place in the graph. -/
lemma Staged.step {e e' : Engine} (h : Staged e)
    (st : (investigation deps).step e env = some e') : Staged e' := by
  obtain ⟨node, standing, rfl⟩ := investigation_step st
  have effect : Effect deps env e.meters e.state node
    (runNode deps env e.meters e.state node) := effect_of_run
  generalize runNode deps env e.meters e.state node = r at effect
  have entered := h.entered node standing
  have none_new : ∀ report ∈ (none : Option RCAReport), Concludes report := by
    intro _ present
    cases present
  cases effect with
  | timedOut exceeded => exact h.finish rfl none_new
  | @degraded _ nxt status kind phase desc exceeded counting there =>
    refine h.next ?_ rfl none_new
    cases node <;> cases there <;> rfl
  | invalidId invalid => exact h.raised standing
  | notLoaded valid exceeded => exact h.finish rfl none_new
  | loadFailed called failed => exact h.finish rfl none_new
  | loaded called fine found => exact h.next rfl rfl none_new
  | planRefused within refused => exact h.refused standing
  | hopeless within answered none_left => exact h.finish rfl none_new
  | planned within answered some_left => exact h.next rfl rfl none_new
  | collectEmpty within nothing => exact h.next rfl rfl none_new
  | collectTimedOut within pending exceeded => exact h.finish rfl none_new
  | collectStopped within pending exceeded counting => exact h.next rfl rfl none_new
  | @collected call queue result m' desc more within pending called again =>
    cases more with
    | false => exact h.next rfl rfl none_new
    | true => exact h.next entered rfl none_new
  | analyzeRefused within drains refused => exact h.refused standing
  | analyzed within drains answered => exact h.next rfl rfl none_new
  | verifyRefused within refused => exact h.refused standing
  | verifyInvalid within => exact h.raised standing
  | verified within answered enough => exact h.next rfl rfl none_new
  | inconclusive within answered more => exact h.next rfl rfl none_new
  | synthesizeRefused within refused => exact h.refused standing
  | synthesizeInvalid within answered => exact h.raised standing
  | synthesized within answered =>
    refine h.next rfl rfl ?_
    intro report present
    cases present
    exact buildRcaReport_concludes
  | validateInvalid same calls => exact h.raised standing
  | fallbackInvalid rejected same calls => exact h.finish rfl none_new
  | fallback cause passed =>
    refine h.finish rfl ?_
    intro report present
    cases present
    exact .inr rfl
  | repair present rejected once => exact h.next rfl rfl none_new
  | accepted present passed =>
    refine h.finish ?_ none_new
    obtain done | short := h.draft _ present
    · rw [done]
      rfl
    · rw [short]
      rfl

/-- Only the first two nodes can leave the table. -/
lemma staysInTable_of {e : Engine} {node} (standing : e.position = .running node)
    (later : node ∉ [Node.initialise, .plan]) : StaysInTable deps e env := by
  constructor
  · intro here
    cases standing.symm.trans here
    exact absurd (by decide) later
  · intro here
    cases standing.symm.trans here
    exact absurd (by decide) later

/-- The planning that is within its limits stays in the table. -/
lemma staysInTable_of_plan {e : Engine} (standing : e.position = .running .plan)
    (within : checkLimits e.meters.usage deps.limits env.guardAt = .ok ()) :
    StaysInTable deps e env := by
  constructor
  · intro here
    cases standing.symm.trans here
  · intro _ kind exceeded
    rw [within] at exceeded
    cases exceeded

/-- A call that was executed was within the limits. -/
lemma within_of_call {m m' : Meters} {call result}
    (e : runValidatedCall deps env m call = (.ok result, m')) :
    checkLimits m.usage deps.limits (env.callAt m.usage.toolCalls) = .ok () := by
  unfold runValidatedCall at e
  split at e
  · cases e
  · assumption

/-- The loading that makes its call stays in the table. -/
lemma staysInTable_of_load {e : Engine} {call m' result}
    (standing : e.position = .running .initialise)
    (called : runValidatedCall deps env (startedMeters deps env e.meters) call =
      (.ok result, m')) : StaysInTable deps e env := by
  constructor
  · intro _ _
    exact within_of_call called
  · intro here
    cases standing.symm.trans here

/-- A path is extended by a node exactly when the node stays in the table. -/
theorem follows_step {e e' : Engine} (h : Staged e) (follows : FollowsStateMachine e.statuses)
    (st : (investigation deps).step e env = some e') :
    FollowsStateMachine e'.statuses ↔ StaysInTable deps e env := by
  obtain ⟨node, standing, rfl⟩ := investigation_step st
  have effect : Effect deps env e.meters e.state node
    (runNode deps env e.meters e.state node) := effect_of_run
  generalize runNode deps env e.meters e.state node = r at effect
  have entered := h.entered node standing
  -- what a node does to the path is the status it enters, `left` and `stays` enter none
  have sets {u m target} (set : u.status = some target) :
      FollowsStateMachine (e.after node (.ok u, m)).statuses ↔
        entryStatus node = target ∨ canTransition (entryStatus node) target = true := by
    rw [statuses_after_ok, followsStateMachine_snoc h.last, set, entered]
    exact and_iff_right follows
  have stays {u m} (set : u.status = none) :
      FollowsStateMachine (e.after node (.ok u, m)).statuses := by
    rw [statuses_after_ok, followsStateMachine_snoc h.last, set]
    exact ⟨follows, .inl rfl⟩
  have left {x m} : FollowsStateMachine (e.after node (.error x, m)).statuses := by
    rw [statuses_after_error, followsStateMachine_snoc h.last]
    exact ⟨follows, .inl rfl⟩
  cases effect with
  | timedOut exceeded reachable =>
    cases node with
    | initialise | validate => exact absurd rfl reachable
    | plan =>
      refine (sets rfl).trans (iff_of_true (by decide) ⟨?_, ?_⟩)
      · intro here
        cases standing.symm.trans here
      · intro _ kind exceeded'
        cases exceeded.symm.trans exceeded'
        rfl
    | collect | analyze | verify | synthesize =>
      exact (sets rfl).trans (iff_of_true (by decide) (staysInTable_of standing (by decide)))
  | @degraded _ nxt status kind phase desc exceeded counting there =>
    cases node with
    | initialise | validate => cases there
    -- out of budget, planning skips to the synthesis, and the table knows no such step
    | plan =>
      cases there
      refine (sets rfl).trans (iff_of_false (by decide) ?_)
      rintro ⟨_, within⟩
      exact counting (within standing kind exceeded)
    | collect | analyze | verify | synthesize =>
      cases there
      exact (sets rfl).trans (iff_of_true (by decide) (staysInTable_of standing (by decide)))
  | invalidId invalid =>
    refine iff_of_true left ⟨?_, ?_⟩
    · intro _ valid
      rw [invalid] at valid
      cases valid
    · intro here
      cases standing.symm.trans here
  -- the table has no timeout of a pending investigation
  | notLoaded valid exceeded =>
    refine (sets rfl).trans (iff_of_false (by decide) ?_)
    rintro ⟨within, _⟩
    cases exceeded.symm.trans (within standing valid)
  | loadFailed called failed =>
    exact (sets rfl).trans (iff_of_true (by decide) (staysInTable_of_load standing called))
  | loaded called fine found =>
    exact (sets rfl).trans (iff_of_true (by decide) (staysInTable_of_load standing called))
  | planRefused within answered =>
    have stay := staysInTable_of_plan standing within
    obtain ⟨status, reason, final, same⟩ | ⟨name, same⟩ := llmTerminal_cases _
    · rw [same]
      refine (sets rfl).trans (iff_of_true ?_ stay)
      obtain rfl | rfl := final <;> decide
    · rw [same]
      exact iff_of_true left stay
  | hopeless within answered none_left =>
    exact (sets rfl).trans (iff_of_true (by decide) (staysInTable_of_plan standing within))
  | planned within answered some_left =>
    exact (sets rfl).trans (iff_of_true (by decide) (staysInTable_of_plan standing within))
  | analyzeRefused within drains answered | verifyRefused within answered
  | synthesizeRefused within answered =>
    have stay : StaysInTable deps e env := staysInTable_of standing (by decide)
    obtain ⟨status, reason, final, same⟩ | ⟨name, same⟩ := llmTerminal_cases _
    · rw [same]
      refine (sets rfl).trans (iff_of_true ?_ stay)
      obtain rfl | rfl := final <;> decide
    · rw [same]
      exact iff_of_true left stay
  | verifyInvalid within | synthesizeInvalid within answered | validateInvalid same calls =>
    exact iff_of_true left (staysInTable_of standing (by decide))
  | collectEmpty within nothing | collectTimedOut within pending exceeded
  | collectStopped within pending exceeded counting | analyzed within drains answered
  | verified within answered enough | inconclusive within answered more
  | synthesized within answered | fallbackInvalid rejected same calls | fallback cause passed
  | repair present rejected once =>
    exact (sets rfl).trans (iff_of_true (by decide) (staysInTable_of standing (by decide)))
  | @collected call queue result m' desc more within pending called again =>
    have stay : StaysInTable deps e env := staysInTable_of standing (by decide)
    cases more with
    | false => exact (sets rfl).trans (iff_of_true (by decide) stay)
    | true => exact iff_of_true (stays rfl) stay
  | accepted present passed =>
    refine (sets rfl).trans (iff_of_true ?_ (staysInTable_of standing (by decide)))
    obtain done | short := h.draft _ present
    · rw [done]
      exact .inr (by decide)
    · rw [short]
      exact .inr (by decide)

/-- The statuses of a state of a run begin with those of the earlier ones. -/
lemma prefix_statuses {e e' : Engine} {envs} (r : (investigation deps).Run e envs e') :
    e.statuses <+: e'.statuses := by
  induction r with
  | nil => exact List.prefix_refl _
  | @cons e e1 e2 env envs st r ih =>
    refine List.IsPrefix.trans ?_ ih
    obtain ⟨node, standing, rfl⟩ := investigation_step st
    obtain ⟨update | escaped, m⟩ := runNode deps env e.meters e.state node
    · rw [statuses_after_error]
      exact List.prefix_append _ _
    · rw [statuses_after_ok]
      exact List.prefix_append _ _

/-- What is persisted at the end is the last status, or FAILED after an exception. -/
lemma completion_status (deps : GraphDeps β) {e : Engine} (h : Staged e) (finish : e.position.Finished) :
    (completion deps e.invocation).status = e.state.status ∨
      canTransition e.state.status (completion deps e.invocation).status = true := by
  unfold Engine.invocation
  match where_ : e.position with
  | .running node => exact absurd where_ (finish node)
  | .ended =>
    left
    have final := h.final where_
    simp [completion, final]
  | .raised escaped =>
    right
    exact canTransition_failed (h.active escaped where_)

/-- An investigation, up to the status that is persisted, follows the declared state machine exactly
when none of its steps is one of the two that the table does not know. -/
theorem statuses_follow_stateMachine_iff {envs e}
    (r : (investigation deps).Run (start deps) envs e) (finish : e.position.Finished) :
    FollowsStateMachine (e.statuses ++ [(completion deps e.invocation).status]) ↔
      (investigation deps).EachStep (fun e env _ => StaysInTable deps e env) (start deps) envs := by
  have staged : Staged e := r.invariant (fun _ _ _ h st => h.step st) staged_start
  have throughout := r.always_iff (I := Staged) (P := fun e => FollowsStateMachine e.statuses)
    (fun _ _ _ h st => h.step st) (fun _ _ _ h follows st => follows_step h follows st)
    staged_start (List.isChain_singleton _)
  rw [followsStateMachine_snoc staged.last, ← throughout]
  constructor
  · rintro ⟨follows, _⟩ envs1 envs2 u rfl r1
    obtain ⟨t, first, rest⟩ := r.cut
    cases r1.deterministic first
    exact follows.of_prefix (prefix_statuses rest)
  · intro always
    refine ⟨always envs [] e (by simp) r, ?_⟩
    obtain same | allowed := completion_status deps staged finish
    · exact .inl same.symm
    · exact .inr allowed

instance {statuses} : Decidable (FollowsStateMachine statuses) :=
  inferInstanceAs (Decidable (List.IsChain _ _))

/-- An investigation with the default limits that takes its seven steps within the table. -/
theorem statuses_follow_stateMachine_default :
    ∃ e, (investigation (sampleDeps {})).Run (start (sampleDeps {}))
        (List.replicate 7 (sampleEnv sampleReplies)) e ∧
      (investigation (sampleDeps {})).EachStep (fun e env _ => StaysInTable (sampleDeps {}) e env)
        (start (sampleDeps {})) (List.replicate 7 (sampleEnv sampleReplies)) := by
  have whole : ((investigation (sampleDeps {})).exec (start (sampleDeps {}))
      (List.replicate 7 (sampleEnv sampleReplies))).map (fun e => (e.position, decide
        (FollowsStateMachine (e.statuses ++ [(completion (sampleDeps {}) e.invocation).status])))) =
          some (.ended, true) := by decide +kernel
  obtain ⟨e, run, facts⟩ := Option.map_eq_some_iff.mp whole
  obtain ⟨ended, follows⟩ := Prod.mk.inj facts
  have r := Machine.run_iff_exec.mpr run
  have finish : e.position.Finished := by simp [Position.Finished, ended]
  exact ⟨e, r, (statuses_follow_stateMachine_iff r finish).mp (of_decide_eq_true follows)⟩

/-- With a single admissible step, the planning is skipped and the status goes from PLANNING to
VERIFYING, which the table does not allow. -/
theorem statuses_leave_stateMachine :
    ∃ e, (investigation (sampleDeps { maxSteps := 1 })).Run (start (sampleDeps { maxSteps := 1 }))
        (List.replicate 4 (sampleEnv sampleReplies)) e ∧
      e.position = .ended ∧
      e.statuses = [.pending, .planning, .verifying, .verifying, .insufficientEvidence] ∧
      ¬ FollowsStateMachine e.statuses := by
  have whole : ((investigation (sampleDeps { maxSteps := 1 })).exec
      (start (sampleDeps { maxSteps := 1 })) (List.replicate 4 (sampleEnv sampleReplies))).map
        (fun e => (e.position, e.statuses)) =
      some (.ended, [.pending, .planning, .verifying, .verifying, .insufficientEvidence]) := by
    decide +kernel
  obtain ⟨e, run, facts⟩ := Option.map_eq_some_iff.mp whole
  obtain ⟨ended, statuses⟩ := Prod.mk.inj facts
  refine ⟨e, Machine.run_iff_exec.mpr run, ended, statuses, ?_⟩
  rw [statuses]
  decide

end SentinelOps.Rca
