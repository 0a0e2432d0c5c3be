import SentinelOps.Rca.Effects
import SentinelOps.Rca.EvidenceTools

/-!
# The tool-call budget

The limit check before a call compares with a strict inequality, so it would let one call too many
pass. What bounds the calls is `Budgeted`: wherever calls are taken from the queue, the calls made
so far and the queue together fit into the budget.
-/

namespace SentinelOps.Rca

variable {β : Type} {deps : GraphDeps β} {env : NodeEnv β}

/-- The joint invariant of the queue and the calls. -/
structure Budgeted (limits : ResourceLimits) (e : Engine) : Prop where
  counted : e.meters.usage.toolCalls = e.meters.executed.length
  within : e.meters.executed.length ≤ limits.maxToolCalls
  first : e.position = .running .initialise → e.meters.executed = []
  loaded : e.position = .running .plan → e.meters.executed.length = 1
  pending : e.position = .running .collect ∨ e.position = .running .analyze →
    e.state.queue.length + e.meters.executed.length ≤ limits.maxToolCalls

/-- A new investigation is within its budget. -/
lemma budgeted_start : Budgeted deps.limits (start deps) where
  counted := rfl
  within := Nat.zero_le _
  first _ := rfl
  loaded standing := by cases standing
  pending standing := by obtain standing | standing := standing <;> cases standing

/-- Outside the three nodes that load, plan and take calls, the meters alone matter. -/
lemma Budgeted.of_meters {limits : ResourceLimits} {e : Engine}
    (counted : e.meters.usage.toolCalls = e.meters.executed.length)
    (within : e.meters.executed.length ≤ limits.maxToolCalls)
    (elsewhere : ∀ node ∈ [Node.initialise, .plan, .collect, .analyze],
      e.position ≠ .running node) : Budgeted limits e where
  counted := counted
  within := within
  first standing := absurd standing (elsewhere _ (by decide))
  loaded standing := absurd standing (elsewhere _ (by decide))
  pending standing := by
    obtain standing | standing := standing
    · exact absurd standing (elsewhere _ (by decide))
    · exact absurd standing (elsewhere _ (by decide))

/-- The engine after a terminal update keeps the budget of its meters. -/
lemma Budgeted.ended {limits : ResourceLimits} {e : Engine} {node status reason extra m}
    (counted : m.usage.toolCalls = m.executed.length)
    (within : m.executed.length ≤ limits.maxToolCalls) :
    Budgeted limits (e.after node (.ok (terminal status reason extra), m)) := by
  apply Budgeted.of_meters counted within
  intro node _
  simp

/-- The engine after an exception keeps the budget of its meters. -/
lemma Budgeted.left {limits : ResourceLimits} {e : Engine} {node x m}
    (counted : m.usage.toolCalls = m.executed.length)
    (within : m.executed.length ≤ limits.maxToolCalls) :
    Budgeted limits (e.after node (.error x, m)) := by
  apply Budgeted.of_meters counted within
  intro node _
  simp

/-- The engine after a reply of the model that is an error keeps the budget of its meters. -/
lemma Budgeted.refused {limits : ResourceLimits} {e : Engine} {node exc m}
    (counted : m.usage.toolCalls = m.executed.length)
    (within : m.executed.length ≤ limits.maxToolCalls) :
    Budgeted limits (e.after node (llmTerminal exc, m)) := by
  obtain ⟨status, reason, _, e⟩ | ⟨name, e⟩ := llmTerminal_cases exc
  · rw [e]
    exact .ended counted within
  · rw [e]
    exact .left counted within

/-- The accepted plan fits into what is left of the budget. -/
lemma length_requestPlan {m : Meters} {state validated rationale}
    (e : requestPlan deps env m state = .ok (validated, rationale)) :
    validated.accepted.length ≤ deps.limits.maxToolCalls - m.usage.toolCalls := by
  unfold requestPlan at e
  dsimp only at e
  split at e
  · cases e
  · split at e
    · split at e
      · cases e
      · cases e
        exact length_validatePlan
    · cases e
      exact length_validatePlan

/-- The follow-up calls fit into what is left of the budget. -/
lemma length_followUp {m : Meters} {state result} :
    (followUp deps m state result).length ≤ deps.limits.maxToolCalls - m.usage.toolCalls := by
  unfold followUp
  split
  · exact length_validatePlan.trans (Nat.min_le_left _ _)
  · exact Nat.zero_le _

/-- A call that was executed is counted. -/
lemma counted_call {m m' : Meters} {call result}
    (e : runValidatedCall deps env m call = (.ok result, m'))
    (counted : m.usage.toolCalls = m.executed.length) :
    m'.usage.toolCalls = m'.executed.length ∧ m'.executed.length = m.executed.length + 1 := by
  obtain ⟨_, _, other, _⟩ | ⟨_, ctx, _, _, rfl⟩ := runValidatedCall_cases e
  · cases other
  · simp [counted]

/-- The first call fits into every admissible budget. -/
lemma Budgeted.first_call {limits : ResourceLimits} {e : Engine} {m : Meters}
    (h : Budgeted limits e) (standing : e.position = .running .initialise)
    (one : m.executed.length = e.meters.executed.length + 1) :
    m.executed.length ≤ limits.maxToolCalls := by
  rw [h.first standing] at one
  rw [one]
  exact limits.toolCalls_ok.1

/-- After a collected call the graph collects again or analyses. -/
lemma again_or_analyze {s : InvestigationState} {u : Update} {more : Bool} {node}
    (next : u.next = some (some (if more then .collect else .analyze)))
    (other : node ∉ [Node.collect, .analyze]) : route (s.merge u) ≠ .running node := by
  intro back
  obtain finish | goes := route_cases (s := s) next
  · rw [finish] at back
    cases back
  · rw [goes] at back
    cases more <;> cases back <;> exact other (by decide)

/-- Every node keeps the calls and the queue within the budget. -/
theorem Budgeted.step {e e' : Engine} (h : Budgeted deps.limits e)
    (st : (investigation deps).step e env = some e') : Budgeted deps.limits e' := by
  obtain ⟨node, standing, rfl⟩ := investigation_step st
  have counted := h.counted
  have within := h.within
  have effect : Effect deps env e.meters e.state node
    (runNode deps env e.meters e.state node) := effect_of_run
  generalize runNode deps env e.meters e.state node = r at effect
  cases effect with
  | timedOut exceeded => exact .ended counted within
  | @degraded _ nxt status kind phase desc exceeded counting there =>
    refine ⟨counted, within, ?_, ?_, fun _ => by simpa using within⟩
    · intro back
      cases node <;> cases there <;> simp [route_merge, InvestigationStatus.isTerminal] at back
    · intro back
      cases node <;> cases there <;> simp [route_merge, InvestigationStatus.isTerminal] at back
  | invalidId invalid => exact .left counted within
  | notLoaded valid exceeded => exact .ended counted within
  -- the load is the first call of the investigation
  | loadFailed called failed =>
    obtain ⟨counted', one⟩ := counted_call called counted
    exact .ended counted' (h.first_call standing one)
  | loaded called fine found =>
    obtain ⟨counted', one⟩ := counted_call called counted
    refine ⟨counted', h.first_call standing one, ?_, ?_, ?_⟩
    · simp [route_merge, InvestigationStatus.isTerminal]
    · intro _
      simpa [h.first standing, startedMeters] using one
    · simp [route_merge, InvestigationStatus.isTerminal]
  | planRefused within' refused => exact .refused counted within
  | hopeless within' answered none_left => exact .ended counted within
  | planned within' answered some_left =>
    have one := h.loaded standing
    have fits := length_requestPlan answered
    refine ⟨counted, within, ?_, ?_, ?_⟩
    · simp [route_merge, InvestigationStatus.isTerminal]
    · simp [route_merge, InvestigationStatus.isTerminal]
    · intro _
      simp only [after_ok, merge_queue, Option.getD_some, step_executed]
      omega
  | collectEmpty within' nothing =>
    refine ⟨counted, within, ?_, ?_, ?_⟩
    · simp [route_merge, InvestigationStatus.isTerminal]
    · simp [route_merge, InvestigationStatus.isTerminal]
    · intro _
      simpa [nothing] using within
  | collectTimedOut within' pending exceeded => exact .ended counted within
  | collectStopped within' pending exceeded counting =>
    refine ⟨counted, within, ?_, ?_, ?_⟩
    · simp [route_merge, InvestigationStatus.isTerminal]
    · simp [route_merge, InvestigationStatus.isTerminal]
    · intro _
      simpa using within
  -- the queue loses the call that was made
  | @collected call queue result m' desc more within' pending called again =>
    obtain ⟨counted', one⟩ := counted_call called counted
    have fits := h.pending (.inl standing)
    rw [pending, List.length_cons] at fits
    refine ⟨counted', ?_, ?_, ?_, ?_⟩
    · simp only [after_ok, step_executed]
      omega
    · intro back
      exact absurd back (again_or_analyze rfl (by decide))
    · intro back
      exact absurd back (again_or_analyze rfl (by decide))
    · intro _
      simp only [after_ok, merge_queue, Option.getD_some, step_executed]
      omega
  | analyzeRefused within' drains refused =>
    obtain ⟨results, d⟩ := drained drains
    have fits := h.pending (.inr standing)
    have less := d.length_le
    refine .refused ?_ ?_
    · simp [d.toolCalls, d.executed, counted]
    · simp only [d.executed, List.length_append]
      omega
  | analyzed within' drains answered =>
    obtain ⟨results, d⟩ := drained drains
    have fits := h.pending (.inr standing)
    have less := d.length_le
    refine .of_meters ?_ ?_ ?_
    · simp [d.toolCalls, d.executed, counted]
    · simp only [after_ok, step_executed, d.executed, List.length_append]
      omega
    · simp [route_merge, InvestigationStatus.isTerminal]
  | verifyRefused within' refused => exact .refused counted within
  | verifyInvalid within' => exact .left counted within
  | verified within' answered enough =>
    refine .of_meters counted within ?_
    simp [route_merge, InvestigationStatus.isTerminal]
  -- the follow-up plan is cut to the calls that are left
  | @inconclusive result desc within' answered more =>
    have fits : (followUp deps e.meters e.state result).length ≤ _ := length_followUp
    refine ⟨counted, within, ?_, ?_, ?_⟩
    · simp [route_merge, InvestigationStatus.isTerminal]
    · simp [route_merge, InvestigationStatus.isTerminal]
    · intro _
      simp only [after_ok, merge_queue, Option.getD_some, step_executed]
      omega
  | synthesizeRefused within' refused => exact .refused counted within
  | synthesizeInvalid within' answered => exact .left counted within
  | synthesized within' answered =>
    refine .of_meters counted within ?_
    simp [route_merge, InvestigationStatus.isTerminal]
  | validateInvalid same calls =>
    refine .left ?_ ?_
    · rw [same, calls, counted]
    · rw [same]
      exact within
  | fallbackInvalid rejected same calls =>
    refine .ended ?_ ?_
    · rw [same, calls, counted]
    · rw [same]
      exact within
  | fallback cause passed => exact .ended counted within
  | repair present rejected once =>
    refine .of_meters counted within ?_
    simp [route_merge, InvestigationStatus.isTerminal]
  | accepted present passed => exact .ended counted within

/-- An incident as the API returns it. -/
def sampleIncident : IncidentPayload where
  id := "inc_0a1b2c"
  service := "checkout"
  environment := "prod"
  status := "OPEN"
  severity := "HIGH"
  anomalyCount := 3
  startedAt := 0
  dump := object [("id", .str "inc_0a1b2c"), ("service", .str "checkout"),
    ("severity", .str "HIGH")]

/-- Sources that answer every request. -/
def sampleAnswers : SourceAnswers where
  getIncident _ := .ok sampleIncident
  getIncidentHistory _ := .ok []
  getIncidentEvidence _ := .ok []
  listIncidents _ _ _ _ := .ok []
  scrape _ _ := .ok { present := [], scrapedAt := 0, dump := .empty }
  check _ := .ok { health := "ok", readiness := "ok", checkedAt := 0, dump := .empty }
  collectedAt n := n

/-- An investigation of that incident within the given limits. -/
def sampleDeps (limits : ResourceLimits) : GraphDeps SourceAnswers where
  incidentId := "inc_0a1b2c"
  investigationId := "rca_1"
  mode := "live"
  registry := buildRegistry fun v => match v with
    | .int n => .ok n
    | _ => .error "Input should be a valid integer"
  provider := "anthropic"
  model := none
  limits := limits
  startedAt := 0

/-- The call for the timeline of the incident. -/
def timelineCall : PlannedCall :=
  { tool := "get_incident_timeline"
    arguments := object [("incident_id", .str "inc_0a1b2c")] }

/-- A synthesis without a root cause. -/
def sampleSynthesis (uncertainty : String) : SynthesisResult where
  conclusion := .insufficientEvidence
  summary := "No cause was found."
  recommendedAction := { actionType := .monitor, description := "Keep watching." }
  uncertainty := uncertainty

/-- A model that plans the timeline call and concludes. -/
def sampleReplies : LlmReplies where
  plan _ := .ok { calls := [timelineCall] }
  analyze _ := .ok {}
  verify _ := .ok {}
  synthesize _ := .ok (sampleSynthesis "Little evidence.")

/-- The outside of a node under which no time passes. -/
def sampleEnv (llm : LlmReplies) : NodeEnv SourceAnswers where
  llm := llm
  answers _ := sampleAnswers
  guardAt := 0
  callAt _ := 0
  stepAt _ := 0
  stampAt := 0

/-- No run executes more tool calls than its budget allows. -/
theorem toolCalls_within_budget {envs e} (r : (investigation deps).Run (start deps) envs e) :
    e.meters.executed.length ≤ deps.limits.maxToolCalls := by
  have budgeted : Budgeted deps.limits e :=
    r.invariant (fun _ _ _ h st => h.step st) budgeted_start
  exact budgeted.within

/-- Two calls within a budget of two. -/
theorem toolCalls_within_budget_two :
    ∃ e, (investigation (sampleDeps { maxToolCalls := 2 })).Run
        (start (sampleDeps { maxToolCalls := 2 })) (List.replicate 3 (sampleEnv sampleReplies)) e ∧
      e.meters.executed.length = 2 ∧ 2 ≤ 2 := by
  have two : ((investigation (sampleDeps { maxToolCalls := 2 })).exec
      (start (sampleDeps { maxToolCalls := 2 })) (List.replicate 3 (sampleEnv sampleReplies))).map
        (fun e => e.meters.executed.length) = some 2 := by decide +kernel
  obtain ⟨e, run, count⟩ := Option.map_eq_some_iff.mp two
  have r := Machine.run_iff_exec.mpr run
  have within := toolCalls_within_budget r
  rw [count] at within
  exact ⟨e, r, count, within⟩

end SentinelOps.Rca
