import SentinelOps.Rca.Budget
import SentinelOps.Rca.Frugal

/-!
# The evidence budget

The engine looks at what is left of the budget before every further call, but not before the first
planned one. With a budget of one item the incident exhausts it, and the first planned item is one
too many; under all other limits `Held` keeps what is held, what was counted and what was issued
within the budget.
-/

namespace SentinelOps.Rca

variable {β : Type} {deps : GraphDeps β} {env : NodeEnv β}

/-- The items that are held are counted, for each counted item an id was issued, and no more ids
than the budget allows. -/
structure Accounted (limits : ResourceLimits) (held : Nat) (m : Meters) : Prop where
  capacity : m.toolContext.maxEvidenceItems = limits.maxEvidenceItems
  held : held ≤ m.usage.evidenceItems
  counted : m.usage.evidenceItems ≤ m.toolContext.issued
  within : m.toolContext.issued ≤ limits.maxEvidenceItems

/-- A trace entry changes nothing. -/
@[simp] lemma accounted_step {limits : ResourceLimits} {held m kind phase desc name ids} :
    Accounted limits held (step env m kind phase desc name ids).2 ↔ Accounted limits held m := by
  constructor
  · rintro ⟨capacity, held, counted, within⟩
    exact ⟨capacity, held, counted, within⟩
  · rintro ⟨capacity, held, counted, within⟩
    exact ⟨capacity, held, counted, within⟩

/-- A call with something left of the budget, or the first one for the incident, stays within it. -/
lemma Accounted.call {held m m' call result} (frugal : Frugal deps.registry)
    (h : Accounted deps.limits held m)
    (left : m.toolContext.issued < deps.limits.maxEvidenceItems)
    (called : runValidatedCall deps env m call = (.ok result, m')) :
    Accounted deps.limits (held + result.evidence.length) m' := by
  obtain ⟨_, _, other, _⟩ | ⟨_, ctx, ran, same, rfl⟩ := runValidatedCall_cases called
  · cases other
  cases same
  obtain ⟨capacity, returned, bounded⟩ := frugal.call call.toolName
    (env.answers m.usage.toolCalls) call.arguments m.toolContext
  rw [ran] at capacity returned bounded
  have held := h.held
  have counted := h.counted
  have full := h.capacity
  refine ⟨capacity.trans full, ?_, ?_, ?_⟩
  · simp only
    omega
  · simp only at returned ⊢
    omega
  · simp only at bounded ⊢
    omega

/-- The follow-up calls of an analysis stay within the budget. -/
lemma Accounted.drain {queue held m steps evidence m'} (frugal : Frugal deps.registry)
    (h : Accounted deps.limits held m)
    (drains : drainExtraQueue deps env m queue = ((steps, evidence), m')) :
    Accounted deps.limits held m' := by
  induction queue generalizing m steps evidence with
  | nil =>
    cases drains
    exact h
  | cons call queue ih =>
    unfold drainExtraQueue at drains
    split at drains
    · rename_i left
      split at drains
      · rename_i refused
        cases drains
        obtain ⟨_, rfl⟩ := runValidatedCall_error refused
        exact h
      · rename_i result m1 called
        have left : m.toolContext.issued < deps.limits.maxEvidenceItems := by
          have full := h.capacity
          unfold ToolContext.remainingEvidence at left
          omega
        obtain ⟨capacity, more, counted, within⟩ := h.call frugal left called
        dsimp only at drains
        generalize rest : drainExtraQueue deps env _ queue = out at drains
        obtain ⟨⟨steps1, evidence1⟩, m2⟩ := out
        cases drains
        exact ih (accounted_step.mpr ⟨capacity, by omega, counted, within⟩) rest
    · cases drains
      exact h

/-- The invariant of the evidence budget: the accounts, and what is left where a call is made
without looking. -/
structure Held (limits : ResourceLimits) (e : Engine) : Prop where
  accounted : Accounted limits e.state.evidence.length e.meters
  first : e.position = .running .initialise →
    e.meters.toolContext.issued = 0 ∧ e.meters.seq = 0
  second : e.position = .running .plan → e.meters.toolContext.issued ≤ 1 ∧ e.meters.seq = 2
  third : e.position = .running .collect →
    e.meters.toolContext.issued < limits.maxEvidenceItems ∨ limits.maxSteps < e.meters.usage.steps

/-- The limits under which the budget is kept: the first planned call is made with something left
of it, or is not made. -/
def KeepsEvidenceBudget (limits : ResourceLimits) : Prop :=
  2 ≤ limits.maxEvidenceItems ∨ limits.maxToolCalls = 1 ∨ limits.maxSteps ≤ 2

/-- A new investigation holds nothing. -/
lemma held_start : Held deps.limits (start deps) where
  accounted := ⟨rfl, le_rfl, le_rfl, Nat.zero_le _⟩
  first _ := ⟨rfl, rfl⟩
  second standing := by cases standing
  third standing := by cases standing

/-- Beyond the nodes that make a call without looking, the accounts are all. -/
lemma Held.of_accounted {limits : ResourceLimits} {e : Engine}
    (accounted : Accounted limits e.state.evidence.length e.meters)
    (elsewhere : ∀ node ∈ [Node.initialise, .plan, .collect], e.position ≠ .running node) :
    Held limits e where
  accounted := accounted
  first standing := absurd standing (elsewhere _ (by decide))
  second standing := absurd standing (elsewhere _ (by decide))
  third standing := absurd standing (elsewhere _ (by decide))

/-- The engine after a terminal update without evidence. -/
lemma Held.ended {limits : ResourceLimits} {e : Engine} {node status reason extra m}
    (accounted : Accounted limits e.state.evidence.length m) (nothing : extra.evidence = []) :
    Held limits (e.after node (.ok (terminal status reason extra), m)) := by
  apply Held.of_accounted
  · simpa [nothing] using accounted
  · simp

/-- The engine after an exception. -/
lemma Held.left {limits : ResourceLimits} {e : Engine} {node x m}
    (accounted : Accounted limits e.state.evidence.length m) :
    Held limits (e.after node (.error x, m)) := by
  apply Held.of_accounted
  · simpa using accounted
  · simp

/-- The engine after a reply of the model that is an error. -/
lemma Held.refused {limits : ResourceLimits} {e : Engine} {node exc m}
    (accounted : Accounted limits e.state.evidence.length m) :
    Held limits (e.after node (llmTerminal exc, m)) := by
  obtain ⟨status, reason, _, e⟩ | ⟨name, e⟩ := llmTerminal_cases exc
  · rw [e]
    exact .ended accounted rfl
  · rw [e]
    exact .left accounted

/-- A check that passes found the steps within their limit. -/
lemma steps_of_checkLimits {usage : ResourceUsage} {limits : ResourceLimits} {now}
    (passed : checkLimits usage limits now = .ok ()) : usage.steps ≤ limits.maxSteps := by
  unfold checkLimits at passed
  split at passed
  · cases passed
  · split at passed
    · cases passed
    · omega

/-- The call for the incident is the first one that issues an id. -/
lemma Held.incident {e : Engine} {result m'} (frugal : Frugal deps.registry)
    (h : Held deps.limits e) (standing : e.position = .running .initialise)
    (called : runValidatedCall deps env (startedMeters deps env e.meters) (incidentCall deps) =
      (.ok result, m')) :
    Accounted deps.limits (e.state.evidence.length + result.evidence.length) m' ∧
      m'.toolContext.issued ≤ 1 ∧ m'.seq = 1 := by
  obtain ⟨none_issued, none_traced⟩ := h.first standing
  have accounted : Accounted deps.limits e.state.evidence.length
      (startedMeters deps env e.meters) := accounted_step.mpr h.accounted
  refine ⟨accounted.call frugal ?_ called, ?_⟩
  · show e.meters.toolContext.issued < _
    have := deps.limits.evidenceItems_ok
    omega
  · obtain ⟨_, _, other, _⟩ | ⟨_, ctx, ran, same, rfl⟩ := runValidatedCall_cases called
    · cases other
    have one := frugal.incident (env.answers (startedMeters deps env e.meters).usage.toolCalls)
      (incidentCall deps).arguments (startedMeters deps env e.meters).toolContext
    replace ran := congrArg (fun r => r.2.issued) ran
    constructor
    · simp only at ran ⊢
      rw [← ran]
      refine one.trans ?_
      show e.meters.toolContext.issued + 1 ≤ 1
      omega
    · show e.meters.seq + 1 = 1
      omega

/-- The validation makes no call. -/
lemma accounted_validate {limits : ResourceLimits} {held m state r m'}
    (ran : validate deps env m state = (r, m')) (h : Accounted limits held m) :
    Accounted limits held m' := by
  unfold validate validateMissing validateRejected at ran
  dsimp only at ran
  repeat' split at ran
  all_goals
    cases ran
    first
    | exact h
    | exact accounted_step.mpr h

/-- Every node keeps the evidence within its budget, if the limits keep it. -/
theorem Held.step {e e' : Engine} (frugal : Frugal deps.registry)
    (keeps : KeepsEvidenceBudget deps.limits) (budgeted : Budgeted deps.limits e)
    (h : Held deps.limits e) (st : (investigation deps).step e env = some e') :
    Held deps.limits e' := by
  obtain ⟨node, standing, rfl⟩ := investigation_step st
  have accounted := h.accounted
  have effect : Effect deps env e.meters e.state node
    (runNode deps env e.meters e.state node) := effect_of_run
  generalize ran : runNode deps env e.meters e.state node = r at effect
  cases effect with
  | timedOut exceeded | collectTimedOut within pending exceeded => exact .ended accounted rfl
  | notLoaded valid exceeded | hopeless within answered none_left | fallback cause passed
  | accepted present passed => exact .ended (accounted_step.mpr accounted) rfl
  | fallbackInvalid rejected same calls => exact .ended (accounted_validate ran accounted) rfl
  | validateInvalid same calls => exact .left (accounted_validate ran accounted)
  | invalidId invalid => exact .left (accounted_step.mpr accounted)
  | verifyInvalid within | synthesizeInvalid within answered => exact .left accounted
  | planRefused within refused | verifyRefused within refused | synthesizeRefused within refused =>
    exact .refused accounted
  | analyzeRefused within drains refused => exact .refused (accounted.drain frugal drains)
  | degraded exceeded counting there =>
    refine ⟨by simpa using accounted, ?_, ?_, ?_⟩ <;>
      cases node <;> cases there <;> simp [route_merge, InvestigationStatus.isTerminal]
  | loadFailed called failed =>
    obtain ⟨⟨capacity, held, counted, within⟩, _, _⟩ := h.incident frugal standing called
    exact .ended ⟨capacity, by omega, counted, within⟩ rfl
  | @loaded result ev rest m' desc called fine found =>
    obtain ⟨⟨capacity, held, counted, within⟩, one, traced⟩ := h.incident frugal standing called
    have some_held : e.state.evidence.length + 1 ≤ m'.usage.evidenceItems := by
      rw [found, List.length_cons] at held
      omega
    refine ⟨?_, ?_, ?_, ?_⟩
    · simpa using (⟨capacity, some_held, counted, within⟩ : Accounted deps.limits _ m')
    · simp [route_merge, InvestigationStatus.isTerminal]
    · intro _
      simp only [after_ok, step_toolContext, step_seq]
      exact ⟨one, by omega⟩
    · simp [route_merge, InvestigationStatus.isTerminal]
  | @planned validated rationale desc within answered some_left =>
    obtain ⟨one, traced⟩ := h.second standing
    refine ⟨by simpa using accounted, ?_, ?_, ?_⟩
    · simp [route_merge, InvestigationStatus.isTerminal]
    · simp [route_merge, InvestigationStatus.isTerminal]
    · intro _
      simp only [after_ok, step_toolContext, step_usageSteps, traced]
      obtain two | single | few := keeps
      · left
        omega
      · -- the call for the incident was the only one allowed
        have fits := length_requestPlan answered
        have made := budgeted.loaded standing
        rw [budgeted.counted, made, single] at fits
        exact absurd (List.length_eq_zero_iff.mp (Nat.le_zero.mp fits)) some_left
      · right
        omega
  | collectEmpty within nothing =>
    refine .of_accounted (by simpa using accounted) ?_
    simp [route_merge, InvestigationStatus.isTerminal]
  | collectStopped within pending exceeded counting =>
    refine .of_accounted (by simpa using accounted) ?_
    simp [route_merge, InvestigationStatus.isTerminal]
  | @collected call queue result m' desc more within pending called again =>
    have left : e.meters.toolContext.issued < deps.limits.maxEvidenceItems := by
      obtain left | finish := h.third standing
      · exact left
      · have := steps_of_checkLimits within
        omega
    have after := accounted.call frugal left called
    refine ⟨?_, ?_, ?_, ?_⟩
    · simpa using after
    · intro back
      exact absurd back (again_or_analyze rfl (by decide))
    · intro back
      exact absurd back (again_or_analyze rfl (by decide))
    · intro back
      cases more with
      | true =>
        left
        have := after.capacity
        simp only [Bool.true_eq, Bool.and_eq_true, decide_eq_true_eq] at again
        have remains := again.2
        unfold ToolContext.remainingEvidence at remains
        simp only [after_ok, step_toolContext]
        omega
      | false =>
        simp [route_merge, InvestigationStatus.isTerminal] at back
  | analyzed within drains answered =>
    refine .of_accounted ?_ ?_
    · simpa using accounted.drain frugal drains
    · simp [route_merge, InvestigationStatus.isTerminal]
  | verified | inconclusive | synthesized | repair =>
    refine .of_accounted (by simpa using accounted) ?_
    simp [route_merge, InvestigationStatus.isTerminal]

/-- The wrapper passes on what a `_run` returns. -/
lemma run_of_ok {tool : EvidenceTool β} {name answers arguments request ctx result ctx'}
    (available : tool.available = true) (accepted : tool.requestModel arguments = .ok request)
    (ran : tool.run_ answers request ctx = (.ok result, ctx')) :
    tool.run name answers arguments ctx = (result, ctx') := by
  unfold EvidenceTool.run
  rw [available, accepted]
  simp [ran]

/-- The sample investigation with the registry of the deployment. -/
def crowdedDeps (coerce : Json → Except String Int) (limits : ResourceLimits) :
    GraphDeps SourceAnswers :=
  { sampleDeps limits with registry := buildRegistry coerce }

section
variable {coerce : Json → Except String Int} {limits : ResourceLimits}

/-- The incident is one item. -/
lemma incident_answered {ctx} :
    ((buildRegistry coerce .getIncident).run .getIncident sampleAnswers
      timelineCall.arguments ctx).1.ok = true ∧
    ((buildRegistry coerce .getIncident).run .getIncident sampleAnswers
      timelineCall.arguments ctx).1.evidence.length = 1 := by
  have built : ∃ result ctx', runGetIncident sampleAnswers "inc_0a1b2c" ctx = (.ok result, ctx') ∧
      result.ok = true ∧ result.evidence.length = 1 := by
    unfold runGetIncident buildEvidence
    dsimp only [sampleAnswers, sampleIncident]
    rw [if_pos (by decide : FitsOpt 128 (some "checkout"))]
    exact ⟨_, _, rfl, rfl, rfl⟩
  obtain ⟨result, ctx', ran, fine, one⟩ := built
  have same : (buildRegistry coerce .getIncident).run .getIncident sampleAnswers
      timelineCall.arguments ctx = (result, ctx') :=
    run_of_ok rfl rfl ran
  rw [same]
  exact ⟨fine, one⟩

/-- The timeline is one item, however little is left of the budget. -/
lemma timeline_answered {ctx} :
    ((buildRegistry coerce .getIncidentTimeline).run .getIncidentTimeline sampleAnswers
      timelineCall.arguments ctx).1.evidence.length = 1 := rfl

/-- The gate accepts the call for the timeline. -/
lemma timeline_accepted {n : Nat} :
    (validatePlan (buildRegistry coerce) (n + 1) [timelineCall]).accepted =
      [⟨.getIncidentTimeline, timelineCall.arguments⟩] := rfl

/-- Below the counted limits a check passes as long as no time has passed. -/
lemma checkLimits_below {calls steps items : Nat} (few_calls : calls ≤ limits.maxToolCalls)
    (few_steps : steps ≤ limits.maxSteps) (few_items : items ≤ limits.maxEvidenceItems) :
    checkLimits ⟨calls, steps, items, 0⟩ limits 0 = .ok () := by
  have early : limits.timeoutSeconds.lt (PyFloat.totalSeconds (0 - 0)) = false := by
    rw [(by decide +kernel : PyFloat.totalSeconds (0 - 0) = .fin 0)]
    have positive := limits.timeout_ok.1
    unfold PyFloat.Above PyFloat.le at positive
    exact (Bool.or_eq_false_iff.mp positive).1
  unfold checkLimits
  rw [if_neg (Nat.not_lt.mpr few_calls), if_neg (Nat.not_lt.mpr few_steps),
    if_neg (Nat.not_lt.mpr few_items), early]
  rfl

/-- A call below the counted limits is made. -/
lemma called_below {m : Meters} {call} (few_calls : m.usage.toolCalls ≤ limits.maxToolCalls)
    (few_steps : m.usage.steps ≤ limits.maxSteps)
    (few_items : m.usage.evidenceItems ≤ limits.maxEvidenceItems)
    (now : m.usage.startedAt = 0) {r m'}
    (called : runValidatedCall (crowdedDeps coerce limits) (sampleEnv sampleReplies) m call =
      (r, m')) :
    ∃ result ctx', r = .ok result ∧
      (buildRegistry coerce call.toolName).run call.toolName sampleAnswers call.arguments
        m.toolContext = (result, ctx') ∧
      m'.usage = ⟨m.usage.toolCalls + 1, m.usage.steps,
        m.usage.evidenceItems + result.evidence.length, 0⟩ ∧ m'.seq = m.seq := by
  have passed : checkLimits m.usage limits 0 = .ok () := by
    obtain ⟨ctx, ⟨calls, steps, items, started⟩, seq, executed⟩ := m
    cases now
    exact checkLimits_below few_calls few_steps few_items
  obtain ⟨_, exceeded, _⟩ | ⟨result, ctx, ran, same, rfl⟩ := runValidatedCall_cases called
  · cases passed.symm.trans exceeded
  · exact ⟨result, ctx, same, ran, by simp [now], rfl⟩

/-- Where the sample run stands: the node, what was counted, and how many items are held. -/
structure Crowded (e : Engine) (node : Node) (calls steps items : Nat) : Prop where
  position : e.position = .running node
  usage : e.meters.usage = ⟨calls, steps, items, 0⟩
  seq : e.meters.seq = steps
  held : e.state.evidence.length = items

/-- The loading of the incident. -/
lemma crowded_initialise {r} (ran : runNode (crowdedDeps coerce limits) (sampleEnv sampleReplies)
      (start (crowdedDeps coerce limits)).meters {} .initialise = r) :
    Crowded ((start (crowdedDeps coerce limits)).after .initialise r) .plan 1 2 1 := by
  have effect : Effect (crowdedDeps coerce limits) (sampleEnv sampleReplies)
    (start (crowdedDeps coerce limits)).meters {} .initialise
    (runNode (crowdedDeps coerce limits) (sampleEnv sampleReplies)
      (start (crowdedDeps coerce limits)).meters {} .initialise) := effect_of_run
  rw [ran] at effect
  have made {result m'} (called : runValidatedCall (crowdedDeps coerce limits)
      (sampleEnv sampleReplies) (startedMeters (crowdedDeps coerce limits)
        (sampleEnv sampleReplies) (start (crowdedDeps coerce limits)).meters)
      (incidentCall (crowdedDeps coerce limits)) = (.ok result, m')) :
      result.ok = true ∧ result.evidence.length = 1 ∧ m'.usage = ⟨1, 1, 1, 0⟩ ∧ m'.seq = 1 := by
    obtain ⟨_, ctx', same, answered, usage, seq⟩ := called_below (Nat.zero_le _)
      limits.steps_ok.1 (Nat.zero_le _) rfl called
    cases same
    obtain ⟨fine, one⟩ :=
      @incident_answered coerce (newMeters (crowdedDeps coerce limits)).toolContext
    have same := congrArg Prod.fst answered
    change ((buildRegistry coerce .getIncident).run .getIncident sampleAnswers
      timelineCall.arguments (newMeters (crowdedDeps coerce limits)).toolContext).1 = result at same
    rw [same] at fine one
    rw [one] at usage
    exact ⟨fine, one, usage, seq⟩
  cases effect with
  | timedOut _ guarded => exact absurd rfl guarded
  | degraded _ _ there => cases there
  | invalidId invalid => cases (by decide : isIncidentId "inc_0a1b2c" = true).symm.trans invalid
  | @notLoaded kind _ valid exceeded =>
    have passed := @checkLimits_below limits 0 1 0 (Nat.zero_le _) limits.steps_ok.1 (Nat.zero_le _)
    cases passed.symm.trans exceeded
  | loadFailed called failed =>
    obtain ⟨fine, one, _⟩ := made called
    obtain bad | nothing := failed
    · cases fine.symm.trans bad
    · rw [nothing] at one
      cases one
  | loaded called fine found =>
    obtain ⟨_, _, usage, seq⟩ := made called
    constructor
    · simp [route_merge, InvestigationStatus.isTerminal]
    · simp [Rca.step, usage, seq]
    · simp [seq]
    · rfl

/-- The planning of the timeline. -/
lemma crowded_plan {e : Engine} {r} (h : Crowded e .plan 1 2 1) (two : 2 ≤ limits.maxToolCalls)
    (three : 3 ≤ limits.maxSteps)
    (ran : runNode (crowdedDeps coerce limits) (sampleEnv sampleReplies) e.meters e.state .plan =
      r) :
    Crowded (e.after .plan r) .collect 1 3 1 ∧
      (e.after .plan r).state.queue = [⟨.getIncidentTimeline, timelineCall.arguments⟩] := by
  have effect : Effect (crowdedDeps coerce limits) (sampleEnv sampleReplies) e.meters e.state .plan
    (runNode (crowdedDeps coerce limits) (sampleEnv sampleReplies) e.meters e.state .plan) :=
    effect_of_run
  rw [ran] at effect
  have passed : checkLimits e.meters.usage limits 0 = .ok () := by
    rw [h.usage]
    exact checkLimits_below (by omega) (by omega) limits.evidenceItems_ok.1
  have accepted : (validatePlan (crowdedDeps coerce limits).registry
      ((crowdedDeps coerce limits).limits.maxToolCalls - e.meters.usage.toolCalls)
      [timelineCall]).accepted = [⟨.getIncidentTimeline, timelineCall.arguments⟩] := by
    obtain ⟨n, more⟩ := Nat.exists_eq_add_of_le two
    have remaining : limits.maxToolCalls - e.meters.usage.toolCalls = n + 1 := by
      rw [h.usage, more]
      simp only
      omega
    show (validatePlan (buildRegistry coerce) (limits.maxToolCalls - _) _).accepted = _
    rw [remaining]
    exact timeline_accepted
  have answers {validated rationale} (answered : requestPlan (crowdedDeps coerce limits)
      (sampleEnv sampleReplies) e.meters e.state = .ok (validated, rationale)) :
      validated.accepted = [⟨.getIncidentTimeline, timelineCall.arguments⟩] := by
    unfold requestPlan at answered
    simp only [sampleEnv, sampleReplies, accepted, List.isEmpty_cons] at answered
    cases answered
    exact accepted
  cases effect with
  | timedOut exceeded | degraded exceeded => cases passed.symm.trans exceeded
  | planRefused within refused =>
    unfold requestPlan at refused
    simp only [sampleEnv, sampleReplies, accepted, List.isEmpty_cons] at refused
    cases refused
  | hopeless within answered none_left =>
    cases none_left.symm.trans (answers answered)
  | planned within answered some_left =>
    constructor
    · constructor
      · simp [route_merge, InvestigationStatus.isTerminal]
      · simp [Rca.step, h.usage, h.seq]
      · simp [h.seq]
      · simp [h.held]
    · exact answers answered

/-- The collection of the timeline. -/
lemma crowded_collect {e : Engine} {r} (h : Crowded e .collect 1 3 1)
    (pending : e.state.queue = [⟨.getIncidentTimeline, timelineCall.arguments⟩])
    (two : 2 ≤ limits.maxToolCalls) (three : 3 ≤ limits.maxSteps)
    (ran : runNode (crowdedDeps coerce limits) (sampleEnv sampleReplies) e.meters e.state .collect =
      r) : (e.after .collect r).state.evidence.length = 2 := by
  have effect : Effect (crowdedDeps coerce limits) (sampleEnv sampleReplies) e.meters e.state
    .collect (runNode (crowdedDeps coerce limits) (sampleEnv sampleReplies) e.meters e.state
      .collect) := effect_of_run
  rw [ran] at effect
  have passed : checkLimits e.meters.usage limits 0 = .ok () := by
    rw [h.usage]
    exact checkLimits_below (by omega) (by omega) limits.evidenceItems_ok.1
  cases effect with
  | timedOut exceeded | degraded exceeded => cases passed.symm.trans exceeded
  | collectEmpty within nothing => cases nothing.symm.trans pending
  | collectTimedOut within queued exceeded | collectStopped within queued exceeded =>
    cases passed.symm.trans exceeded
  | collected within queued called again =>
    cases queued.symm.trans pending
    have few : e.meters.usage.toolCalls ≤ limits.maxToolCalls ∧
        e.meters.usage.steps ≤ limits.maxSteps ∧
        e.meters.usage.evidenceItems ≤ limits.maxEvidenceItems := by
      rw [h.usage]
      exact ⟨Nat.le_of_succ_le two, three, limits.evidenceItems_ok.1⟩
    obtain ⟨_, ctx', same, answered, _⟩ := called_below few.1 few.2.1 few.2.2
      (by rw [h.usage]) called
    cases same
    have one := @timeline_answered coerce e.meters.toolContext
    rw [answered] at one
    simp [h.held, one]

/-- The three nodes that load the incident, plan the timeline and collect it hold two items. -/
lemma crowded_run (two : 2 ≤ limits.maxToolCalls) (three : 3 ≤ limits.maxSteps) :
    ∃ e, (investigation (crowdedDeps coerce limits)).Run (start (crowdedDeps coerce limits))
      (List.replicate 3 (sampleEnv sampleReplies)) e ∧ e.state.evidence.length = 2 := by
  have loaded := @crowded_initialise coerce limits _ rfl
  obtain ⟨planned, pending⟩ := @crowded_plan coerce limits _ _ loaded two three rfl
  have collected := @crowded_collect coerce limits _ _ planned pending two three rfl
  refine ⟨_, ?_, collected⟩
  refine .cons (investigation_step_of _ _ rfl) ?_
  refine .cons (investigation_step_of _ _ loaded.position) ?_
  exact .cons (investigation_step_of _ _ planned.position) .nil

end

/-- The evidence an investigation holds, and the evidence it collected, stay within the budget in
every run with the registry of the deployment exactly under the limits that keep it. -/
theorem evidence_within_budget_iff {coerce} {limits : ResourceLimits} :
    (∀ deps : GraphDeps SourceAnswers, deps.limits = limits →
      deps.registry = buildRegistry coerce →
      ∀ envs e, (investigation deps).Run (start deps) envs e →
      e.state.evidence.length ≤ limits.maxEvidenceItems ∧
        e.meters.usage.evidenceItems ≤ limits.maxEvidenceItems) ↔ KeepsEvidenceBudget limits := by
  constructor
  · intro kept
    by_contra broken
    simp only [KeepsEvidenceBudget, not_or, not_le] at broken
    obtain ⟨one, calls, steps⟩ := broken
    have calls_ok := limits.toolCalls_ok
    have two : 2 ≤ limits.maxToolCalls := by omega
    obtain ⟨e, r, held⟩ := @crowded_run coerce limits two steps
    have within := (kept (crowdedDeps coerce limits) rfl rfl _ e r).1
    omega
  · rintro keeps deps rfl same envs e r
    have frugal : Frugal deps.registry := by
      rw [same]
      exact frugal_buildRegistry
    have both : Budgeted deps.limits e ∧ Held deps.limits e := by
      refine Machine.Run.invariant (I := fun e => Budgeted deps.limits e ∧ Held deps.limits e) r ?_
        ⟨budgeted_start, held_start⟩
      intro s env s' h st
      exact ⟨h.1.step st, h.2.step frugal keeps h.1 st⟩
    have accounted := both.2.accounted
    have counted := accounted.counted.trans accounted.within
    exact ⟨accounted.held.trans counted, counted⟩

/-- With a budget of one item, the incident and the first planned item are two. -/
theorem evidence_over_budget :
    ∃ e, (investigation (sampleDeps { maxEvidenceItems := 1 })).Run
        (start (sampleDeps { maxEvidenceItems := 1 }))
        (List.replicate 3 (sampleEnv sampleReplies)) e ∧
      ¬ e.state.evidence.length ≤ 1 := by
  have two : ((investigation (sampleDeps { maxEvidenceItems := 1 })).exec
      (start (sampleDeps { maxEvidenceItems := 1 }))
      (List.replicate 3 (sampleEnv sampleReplies))).map (fun e => e.state.evidence.length) =
        some 2 := by decide +kernel
  obtain ⟨e, run, count⟩ := Option.map_eq_some_iff.mp two
  refine ⟨e, Machine.run_iff_exec.mpr run, ?_⟩
  rw [count]
  decide

end SentinelOps.Rca
