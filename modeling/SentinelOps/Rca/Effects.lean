import SentinelOps.Rca.Graph

/-!
# What the execution of a node can do

`Effect` lists every way a node can end, with the update it returns, the meters it leaves and the
facts that led there; `effect_of_run` says that the list is complete. The invariants of a run are
case analyses of it. `Drained` is the same for the follow-up calls of an analysis, one call at a
time.
-/

namespace SentinelOps.Rca

variable {β : Type} {deps : GraphDeps β} {env : NodeEnv β}

/-- The call with which every investigation starts. -/
def incidentCall (deps : GraphDeps β) : ValidatedCall :=
  ⟨.getIncident, Dict.empty.set "incident_id" (.str deps.incidentId)⟩

/-- The meters after the first trace entry. -/
def startedMeters (deps : GraphDeps β) (env : NodeEnv β) (m : Meters) : Meters :=
  (step env m .plan .pending
    ("investigation started for incident " ++ deps.incidentId ++ " (mode=" ++ deps.mode ++ ")")).2

/-- The first trace entry. -/
def startedStep (deps : GraphDeps β) (env : NodeEnv β) (m : Meters) : InvestigationStep :=
  (step env m .plan .pending
    ("investigation started for incident " ++ deps.incidentId ++ " (mode=" ++ deps.mode ++ ")")).1

/-- The analysis request after the follow-up calls. -/
def analyzeRequest (state : InvestigationState) (evidence : List Evidence) : AnalyzeRequest :=
  { incident := state.incident, evidence := state.evidence ++ evidence }

/-- The verification request. -/
def verifyRequest (state : InvestigationState) : VerifyRequest :=
  { incident := state.incident, evidence := state.evidence, findings := state.proposedFindings,
    hypotheses := state.proposedHypotheses,
    reanalysisAllowed := decide (state.reanalysisCount < 1) }

/-- The synthesis request. -/
def synthesizeRequest (deps : GraphDeps β) (state : InvestigationState) : SynthesizeRequest :=
  { incident := state.incident, investigationId := deps.investigationId,
    evidence := state.evidence, findings := state.proposedFindings,
    hypotheses := state.hypotheses, repairErrors := state.repairErrors }

/-- The ways a node can end. -/
inductive Effect (deps : GraphDeps β) (env : NodeEnv β) (m : Meters) (state : InvestigationState) :
    Node → NodeResult → Prop where
  | timedOut {node reason} :
    checkLimits m.usage deps.limits env.guardAt = .error .time →
    degradeNext node ≠ none →
    Effect deps env m state node (.ok (terminal .timedOut reason), m)
  | degraded {node nxt status kind phase desc} :
    checkLimits m.usage deps.limits env.guardAt = .error kind →
    kind ≠ .time →
    degradeNext node = some (nxt, status) →
    Effect deps env m state node
      (.ok { status := some status, steps := [(step env m .limit phase desc).1],
             next := some (some nxt), queue := some [] },
        (step env m .limit phase desc).2)
  | invalidId :
    isIncidentId deps.incidentId = false →
    Effect deps env m state .initialise
      (.error ⟨"ValidationError"⟩, startedMeters deps env m)
  | notLoaded {kind reason} :
    isIncidentId deps.incidentId = true →
    checkLimits (startedMeters deps env m).usage deps.limits (env.callAt m.usage.toolCalls) =
      .error kind →
    Effect deps env m state .initialise
      (.ok (terminal .timedOut reason { steps := [startedStep deps env m] }),
        startedMeters deps env m)
  | loadFailed {result m' reason} :
    runValidatedCall deps env (startedMeters deps env m) (incidentCall deps) =
      (.ok result, m') →
    (result.ok = false ∨ result.evidence = []) →
    Effect deps env m state .initialise
      (.ok (terminal .failed reason { steps := [startedStep deps env m] }), m')
  | loaded {result ev rest m' desc} :
    runValidatedCall deps env (startedMeters deps env m) (incidentCall deps) =
      (.ok result, m') →
    result.ok = true →
    result.evidence = ev :: rest →
    Effect deps env m state .initialise
      (.ok { status := some .planning, incident := some ev.content, evidence := [ev],
             steps := [startedStep deps env m,
               (step env m' .toolCall .planning desc (some (str ToolName.getIncident)) [ev.id]).1],
             queue := some [], reanalysisCount := some 0, repairCount := some 0,
             next := some (some .plan) },
        (step env m' .toolCall .planning desc (some (str ToolName.getIncident)) [ev.id]).2)
  | planRefused {exc} :
    checkLimits m.usage deps.limits env.guardAt = .ok () →
    requestPlan deps env m state = .error exc →
    Effect deps env m state .plan (llmTerminal exc, m)
  | hopeless {validated rationale reason desc} :
    checkLimits m.usage deps.limits env.guardAt = .ok () →
    requestPlan deps env m state = .ok (validated, rationale) →
    validated.accepted = [] →
    Effect deps env m state .plan
      (.ok (terminal .insufficientEvidence reason
          { steps := [(step env m .plan .planning desc).1], planRationale := some rationale }),
        (step env m .plan .planning desc).2)
  | planned {validated rationale desc} :
    checkLimits m.usage deps.limits env.guardAt = .ok () →
    requestPlan deps env m state = .ok (validated, rationale) →
    validated.accepted ≠ [] →
    Effect deps env m state .plan
      (.ok { status := some .collectingEvidence, queue := some validated.accepted,
             planRationale := some rationale, steps := [(step env m .plan .planning desc).1],
             next := some (some .collect) },
        (step env m .plan .planning desc).2)
  | collectEmpty :
    checkLimits m.usage deps.limits env.guardAt = .ok () →
    state.queue = [] →
    Effect deps env m state .collect
      (.ok { status := some .analyzing, next := some (some .analyze) }, m)
  | collectTimedOut {reason call queue} :
    checkLimits m.usage deps.limits env.guardAt = .ok () →
    state.queue = call :: queue →
    checkLimits m.usage deps.limits (env.callAt m.usage.toolCalls) = .error .time →
    Effect deps env m state .collect (.ok (terminal .timedOut reason), m)
  | collectStopped {kind call queue desc} :
    checkLimits m.usage deps.limits env.guardAt = .ok () →
    state.queue = call :: queue →
    checkLimits m.usage deps.limits (env.callAt m.usage.toolCalls) = .error kind →
    kind ≠ .time →
    Effect deps env m state .collect
      (.ok { status := some .analyzing, queue := some [],
             steps := [(step env m .limit .collectingEvidence desc).1],
             next := some (some .analyze) },
        (step env m .limit .collectingEvidence desc).2)
  | collected {call queue result m' desc more} :
    checkLimits m.usage deps.limits env.guardAt = .ok () →
    state.queue = call :: queue →
    runValidatedCall deps env m call = (.ok result, m') →
    more = (!queue.isEmpty && decide (m'.toolContext.remainingEvidence > 0)) →
    Effect deps env m state .collect
      (.ok { queue := some queue, evidence := result.evidence,
             steps := [(step env m' .toolCall .collectingEvidence desc
               (some (str call.toolName)) (evidenceIds result.evidence)).1],
             next := some (some (if more then .collect else .analyze)),
             status := if more then none else some .analyzing },
        (step env m' .toolCall .collectingEvidence desc
          (some (str call.toolName)) (evidenceIds result.evidence)).2)
  | analyzeRefused {steps evidence m' exc} :
    checkLimits m.usage deps.limits env.guardAt = .ok () →
    drainExtraQueue deps env m state.queue = ((steps, evidence), m') →
    env.llm.analyze (analyzeRequest state evidence) = .error exc →
    Effect deps env m state .analyze (llmTerminal exc, m')
  | analyzed {steps evidence m' result desc} :
    checkLimits m.usage deps.limits env.guardAt = .ok () →
    drainExtraQueue deps env m state.queue = ((steps, evidence), m') →
    env.llm.analyze (analyzeRequest state evidence) = .ok result →
    Effect deps env m state .analyze
      (.ok { status := some .verifying, proposedFindings := some result.findings,
             proposedHypotheses := some (result.hypotheses.take deps.limits.maxHypotheses),
             steps := steps ++ [(step env m' .analysis .analyzing desc).1],
             next := some (some .verify) },
        (step env m' .analysis .analyzing desc).2)
  | verifyRefused {exc} :
    checkLimits m.usage deps.limits env.guardAt = .ok () →
    env.llm.verify (verifyRequest state) = .error exc →
    Effect deps env m state .verify (llmTerminal exc, m)
  | verifyInvalid :
    checkLimits m.usage deps.limits env.guardAt = .ok () →
    Effect deps env m state .verify (.error ⟨"ValidationError"⟩, m)
  | verified {result desc} :
    checkLimits m.usage deps.limits env.guardAt = .ok () →
    env.llm.verify (verifyRequest state) = .ok result →
    followUp deps m state result = [] →
    Effect deps env m state .verify
      (.ok { status := some .verifying,
             hypotheses := some (judgeAll result.verdicts (evidenceIds state.evidence)
               state.proposedHypotheses),
             steps := [(step env m .verification .verifying desc).1],
             next := some (some .synthesize) },
        (step env m .verification .verifying desc).2)
  | inconclusive {result desc} :
    checkLimits m.usage deps.limits env.guardAt = .ok () →
    env.llm.verify (verifyRequest state) = .ok result →
    followUp deps m state result ≠ [] →
    Effect deps env m state .verify
      (.ok { status := some .analyzing,
             hypotheses := some (judgeAll result.verdicts (evidenceIds state.evidence)
               state.proposedHypotheses),
             queue := some (followUp deps m state result),
             reanalysisCount := some (state.reanalysisCount + 1),
             steps := [(step env m .verification .verifying desc).1],
             next := some (some .analyze) },
        (step env m .verification .verifying desc).2)
  | synthesizeRefused {exc} :
    checkLimits m.usage deps.limits env.guardAt = .ok () →
    env.llm.synthesize (synthesizeRequest deps state) = .error exc →
    Effect deps env m state .synthesize (llmTerminal exc, m)
  | synthesizeInvalid {synthesis} :
    checkLimits m.usage deps.limits env.guardAt = .ok () →
    env.llm.synthesize (synthesizeRequest deps state) = .ok synthesis →
    Effect deps env m state .synthesize (.error ⟨"ValidationError"⟩, m)
  | synthesized {synthesis desc} :
    checkLimits m.usage deps.limits env.guardAt = .ok () →
    env.llm.synthesize (synthesizeRequest deps state) = .ok synthesis →
    Effect deps env m state .synthesize
      (.ok { status := some .verifying, synthesis := some synthesis,
             rca := some (buildRcaReport deps env m state.incident state.evidence
               state.proposedFindings state.hypotheses synthesis),
             steps := [(step env m .rca .verifying desc).1],
             next := some (some .validate) },
        (step env m .rca .verifying desc).2)
  | validateInvalid {m'} :
    m'.executed = m.executed →
    m'.usage.toolCalls = m.usage.toolCalls →
    Effect deps env m state .validate (.error ⟨"ValidationError"⟩, m')
  | fallbackInvalid {errors errors' reason steps m'} :
    validateReport (buildFallbackReport deps env m state.incident state.evidence state.hypotheses
      errors) (evidenceIds state.evidence) = .error errors' →
    m'.executed = m.executed →
    m'.usage.toolCalls = m.usage.toolCalls →
    Effect deps env m state .validate (.ok (terminal .failed reason { steps := steps }), m')
  | fallback {errors reason desc} :
    (state.rca = none ∨ ∃ report errors, state.rca = some report ∧
      validateReport report (evidenceIds state.evidence) = .error errors) →
    validateReport (buildFallbackReport deps env m state.incident state.evidence state.hypotheses
      errors) (evidenceIds state.evidence) = .ok () →
    Effect deps env m state .validate
      (.ok (terminal .insufficientEvidence reason
          { rca := some (buildFallbackReport deps env m state.incident state.evidence
              state.hypotheses errors)
            steps := [(step env m .validation .insufficientEvidence desc).1] }),
        (step env m .validation .insufficientEvidence desc).2)
  | repair {report errors desc} :
    state.rca = some report →
    validateReport report (evidenceIds state.evidence) = .error errors →
    state.repairCount < maxRepairAttempts →
    Effect deps env m state .validate
      (.ok { status := some .verifying, repairCount := some (state.repairCount + 1),
             repairErrors := some errors, steps := [(step env m .validation .verifying desc).1],
             next := some (some .synthesize) },
        (step env m .validation .verifying desc).2)
  | accepted {report desc} :
    state.rca = some report →
    validateReport report (evidenceIds state.evidence) = .ok () →
    Effect deps env m state .validate
      (.ok (terminal report.status "analysis_complete"
          { steps := [(step env m .validation report.status desc).1] }),
        (step env m .validation report.status desc).2)

section
variable {m : Meters} {state : InvestigationState}

/-- What the guard returns is one of the two effects of a limit. -/
lemma guard_effect {node phase r} (h : degradeNext node ≠ none)
    (e : guard deps env m node phase = some r) : Effect deps env m state node r := by
  unfold guard at e
  split at e
  · cases e
  · rename_i kind exceeded
    split at e
    · rename_i isTime
      cases isTime
      cases e
      exact .timedOut exceeded h
    · rename_i counted
      split at e
      · rename_i nowhere
        exact absurd nowhere h
      · rename_i nxt status there
        cases e
        exact .degraded exceeded counted there

/-- A node that proceeds is within its limits. -/
lemma guard_eq_none {node phase} (e : guard deps env m node phase = none) :
    checkLimits m.usage deps.limits env.guardAt = .ok () := by
  unfold guard at e
  split at e
  · assumption
  · split at e
    · cases e
    · split at e <;> cases e

/-- A refused call is one whose limit check failed. -/
lemma runValidatedCall_error {call kind m'}
    (e : runValidatedCall deps env m call = (.error kind, m')) :
    checkLimits m.usage deps.limits (env.callAt m.usage.toolCalls) = .error kind ∧ m' = m := by
  obtain ⟨kind', exceeded, same, rfl⟩ | ⟨_, _, _, other, _⟩ := runValidatedCall_cases e
  · cases same
    exact ⟨exceeded, rfl⟩
  · cases other

/-- The effects of `initialise`. -/
lemma initialise_effect : Effect deps env m state .initialise (initialise deps env m) := by
  unfold initialise
  dsimp only
  split
  · rename_i invalid
    exact .invalidId invalid
  · rename_i valid
    split
    · rename_i kind m' e
      obtain ⟨exceeded, rfl⟩ := runValidatedCall_error e
      exact .notLoaded (Bool.not_eq_false _ ▸ valid) exceeded
    · rename_i result m' e
      split
      · rename_i ev rest fine some_evidence
        exact .loaded e fine some_evidence
      · rename_i other
        apply Effect.loadFailed e
        cases fine : result.ok with
        | false => exact .inl rfl
        | true =>
          right
          match found : result.evidence with
          | [] => rfl
          | ev :: rest => exact absurd found (other ev rest fine)

/-- The effects of `plan`. -/
lemma plan_effect : Effect deps env m state .plan (plan deps env m state) := by
  unfold plan
  split
  · rename_i g limited
    exact guard_effect (by decide) limited
  · rename_i proceeds
    have within := guard_eq_none proceeds
    split
    · rename_i exc refused
      exact .planRefused within refused
    · rename_i validated rationale answered
      dsimp only
      split
      · rename_i none_left
        exact .hopeless within answered (List.isEmpty_iff.mp none_left)
      · rename_i some_left
        refine .planned within answered ?_
        intro none_left
        exact some_left (List.isEmpty_iff.mpr none_left)

/-- The effects of `collect`. -/
lemma collect_effect : Effect deps env m state .collect (collect deps env m state) := by
  unfold collect
  split
  · rename_i g limited
    exact guard_effect (by decide) limited
  · rename_i proceeds
    have within := guard_eq_none proceeds
    split
    · rename_i nothing
      exact .collectEmpty within nothing
    · rename_i call queue pending
      split
      · rename_i kind m' e
        obtain ⟨exceeded, rfl⟩ := runValidatedCall_error e
        split
        · rename_i isTime
          cases isTime
          exact .collectTimedOut within pending exceeded
        · rename_i counted
          exact .collectStopped within pending exceeded counted
      · rename_i result m' e
        exact .collected within pending e rfl

/-- The effects of `analyze`. -/
lemma analyze_effect : Effect deps env m state .analyze (analyze deps env m state) := by
  unfold analyze
  split
  · rename_i g limited
    exact guard_effect (by decide) limited
  · rename_i proceeds
    have within := guard_eq_none proceeds
    dsimp only
    split
    · rename_i exc refused
      exact .analyzeRefused within rfl refused
    · rename_i result answered
      exact .analyzed within rfl answered

/-- The effects of `verify`. -/
lemma verify_effect : Effect deps env m state .verify (verify deps env m state) := by
  unfold verify
  split
  · rename_i g limited
    exact guard_effect (by decide) limited
  · rename_i proceeds
    have within := guard_eq_none proceeds
    split
    · rename_i exc refused
      exact .verifyRefused within refused
    · rename_i result answered
      dsimp only
      split
      · split
        · rename_i none_left
          exact .verified within answered (List.isEmpty_iff.mp none_left)
        · rename_i some_left
          refine .inconclusive within answered ?_
          intro none_left
          exact some_left (List.isEmpty_iff.mpr none_left)
      · exact .verifyInvalid within

/-- The effects of `synthesize`. -/
lemma synthesize_effect : Effect deps env m state .synthesize (synthesize deps env m state) := by
  unfold synthesize
  split
  · rename_i g limited
    exact guard_effect (by decide) limited
  · rename_i proceeds
    have within := guard_eq_none proceeds
    split
    · rename_i exc refused
      exact .synthesizeRefused within refused
    · rename_i synthesis answered
      dsimp only
      split
      · exact .synthesized within answered
      · exact .synthesizeInvalid within answered

/-- The effects of `validate`. -/
lemma validate_effect : Effect deps env m state .validate (validate deps env m state) := by
  unfold validate
  split
  · rename_i missing
    unfold validateMissing
    dsimp only
    split
    · split
      · rename_i rejected
        exact .fallbackInvalid rejected rfl rfl
      · rename_i passed
        exact .fallback (.inl missing) passed
    · exact .validateInvalid rfl rfl
  · rename_i report present
    split
    · rename_i errors rejected
      unfold validateRejected
      split
      · rename_i once
        exact .repair present rejected once
      · dsimp only
        split
        · split
          · rename_i rejected'
            exact .fallbackInvalid rejected' rfl rfl
          · rename_i passed
            exact .fallback (.inr ⟨report, errors, present, rejected⟩) passed
        · exact .validateInvalid rfl rfl
    · rename_i passed
      exact .accepted present passed

/-- Every execution of a node is one of the effects. -/
theorem effect_of_run {node} : Effect deps env m state node (runNode deps env m state node) := by
  cases node with
  | initialise => exact initialise_effect
  | plan => exact plan_effect
  | collect => exact collect_effect
  | analyze => exact analyze_effect
  | verify => exact verify_effect
  | synthesize => exact synthesize_effect
  | validate => exact validate_effect

end

/-- The boundary's errors end the investigation, any other exception leaves the graph. -/
lemma llmTerminal_cases (exc : LlmRaised) :
    (∃ status reason, (status = .failed ∨ status = .timedOut) ∧
      llmTerminal exc = .ok (terminal status reason)) ∨
    ∃ name, llmTerminal exc = .error ⟨name⟩ := by
  cases exc with
  | timeout text => exact .inl ⟨_, _, .inr rfl, rfl⟩
  | error name text => exact .inl ⟨_, _, .inl rfl, rfl⟩
  | other name => exact .inr ⟨name, rfl⟩

/-- The name and the evidence ids of a call, as its trace entry shows them. -/
def callEntry (c : ValidatedCall × ToolResult) : Option String × List String :=
  (some (str c.1.toolName), evidenceIds c.2.evidence)

/-- The tool calls a trace shows. -/
def callTrace (steps : List InvestigationStep) : List (Option String × List String) :=
  (steps.filter fun s => decide (s.kind = .toolCall)).map fun s => (s.toolName, s.evidenceIds)

/-- What the follow-up calls `results` of an analysis leave behind. -/
structure Drained (m : Meters) (queue : List ValidatedCall) (steps : List InvestigationStep)
    (evidence : List Evidence) (m' : Meters) (results : List (ValidatedCall × ToolResult)) :
    Prop where
  calls : results.map Prod.fst <+: queue
  executed : m'.executed = m.executed ++ results
  toolCalls : m'.usage.toolCalls = m.usage.toolCalls + results.length
  seq : m'.seq = m.seq + results.length
  seqs : steps.map InvestigationStep.seq = List.range' (m.seq + 1) results.length
  kinds : ∀ s ∈ steps, s.kind = .toolCall
  trace : steps.map (fun s => (s.toolName, s.evidenceIds)) = results.map callEntry
  evidence : evidence = results.flatMap fun c => c.2.evidence

/-- The follow-up calls of an analysis, one at a time. -/
theorem drained {queue m steps evidence m'}
    (e : drainExtraQueue deps env m queue = ((steps, evidence), m')) :
    ∃ results, Drained m queue steps evidence m' results := by
  have nothing {m : Meters} {queue} : Drained m queue [] [] m [] := by
    constructor <;> simp
  induction queue generalizing m steps evidence m' with
  | nil =>
    cases e
    exact ⟨[], nothing⟩
  | cons call queue ih =>
    unfold drainExtraQueue at e
    split at e
    · split at e
      · rename_i kind m1 refused
        cases e
        obtain ⟨_, rfl⟩ := runValidatedCall_error refused
        exact ⟨[], nothing⟩
      · rename_i result m1 called
        obtain ⟨_, _, other, _⟩ | ⟨_, ctx, _, same, rfl⟩ := runValidatedCall_cases called
        · cases other
        cases same
        dsimp only at e
        generalize rest : drainExtraQueue deps env _ queue = out at e
        obtain ⟨⟨steps1, evidence1⟩, m2⟩ := out
        cases e
        obtain ⟨results, d⟩ := ih rest
        refine ⟨(call, result) :: results, ?_, ?_, ?_, ?_, ?_, ?_, ?_, ?_⟩
        · simpa using d.calls
        · simp [d.executed]
        · have := d.toolCalls
          simp only [step_toolCalls] at this
          simp only [this, List.length_cons]
          omega
        · have := d.seq
          simp only [step_seq] at this
          simp only [this, List.length_cons]
          omega
        · have := d.seqs
          simp only [step_seq] at this
          simp only [List.map_cons, this, step_fst_seq, List.length_cons, List.range'_succ]
        · intro s hs
          obtain rfl | hs := List.mem_cons.mp hs
          · rfl
          · exact d.kinds s hs
        · simp only [List.map_cons, d.trace, callEntry, step_fst_toolName, step_fst_evidenceIds]
        · simp only [d.evidence, List.flatMap_cons]
    · cases e
      exact ⟨[], nothing⟩

/-- The follow-up calls are at most as many as the queue has. -/
lemma Drained.length_le {m queue steps evidence m' results}
    (d : Drained m queue steps evidence m' results) : results.length ≤ queue.length := by
  simpa using d.calls.length_le

end SentinelOps.Rca
