import SentinelOps.Rca.Reports

/-!
# Evidence and trace of an investigation

Evidence and trace entries reach the persisted outcome only through the updates of the nodes. Two
nodes drop some: the analysis returns the entries of its follow-up calls but not their evidence, and
neither when the model then fails, and the loading keeps one item and records no call that failed.
Where nothing is dropped, `Conserved` holds of every state: the evidence and the tool calls of the
trace are those of the executed calls, in order, and the trace is numbered without gaps.
-/

namespace SentinelOps.Rca

variable {β : Type} {deps : GraphDeps β} {env : NodeEnv β}

/-- The evidence, the citations and the trace that are persisted match the executed calls. -/
structure Conserves (c : Completion) (executed : List (ValidatedCall × ToolResult)) : Prop where
  evidence : ∀ call ∈ executed, ∀ ev ∈ call.2.evidence, ev ∈ c.evidence
  cited : ∀ s ∈ c.steps, ∀ id ∈ s.evidenceIds, id ∈ evidenceIds c.evidence
  calls : callTrace c.steps = executed.map callEntry
  seqs : c.steps.map InvestigationStep.seq = List.range' 1 c.steps.length

/-- Nothing is dropped: the loading, when it makes its call, gets exactly one item, the follow-up
calls of an analysis return no evidence, and the model answers the analysis after such calls. -/
def DropsNothing (deps : GraphDeps β) (e : Engine) (env : NodeEnv β) : Prop :=
  (e.position = .running .initialise →
    ∀ result m', runValidatedCall deps env (startedMeters deps env e.meters) (incidentCall deps) =
      (.ok result, m') → result.ok = true ∧ ∃ ev, result.evidence = [ev]) ∧
  (e.position = .running .analyze → checkLimits e.meters.usage deps.limits env.guardAt = .ok () →
    ∀ steps evidence m', drainExtraQueue deps env e.meters e.state.queue = ((steps, evidence), m') →
      evidence = [] ∧
      (steps = [] ∨ ∀ exc, env.llm.analyze (analyzeRequest e.state evidence) = .error exc →
        ∃ name, exc = .other name))

/-- The state accounts for everything that was executed. -/
structure Conserved (s : InvestigationState) (m : Meters) : Prop where
  seqs : s.steps.map InvestigationStep.seq = List.range' 1 m.seq
  calls : callTrace s.steps = m.executed.map callEntry
  silent : ∀ step ∈ s.steps, step.kind ≠ .toolCall → step.evidenceIds = []
  evidence : s.evidence = m.executed.flatMap fun c => c.2.evidence

/-- A new investigation. -/
lemma conserved_start : Conserved (start deps).state (start deps).meters where
  seqs := rfl
  calls := rfl
  silent := by
    intro _ member
    cases member
  evidence := rfl

/-- The tool calls of a longer trace. -/
lemma callTrace_append {xs ys : List InvestigationStep} :
    callTrace (xs ++ ys) = callTrace xs ++ callTrace ys := by
  simp [callTrace]

/-- A trace of tool calls shows all of them. -/
lemma callTrace_of_calls {xs : List InvestigationStep} (h : ∀ s ∈ xs, s.kind = .toolCall) :
    callTrace xs = xs.map fun s => (s.toolName, s.evidenceIds) := by
  unfold callTrace
  rw [List.filter_eq_self.mpr]
  intro s member
  simp [h s member]

/-- What an update adds to a conserved state: trace entries with the next numbers, the tool calls
among them those of the new calls, and the evidence of these. -/
lemma Conserved.extend {s : InvestigationState} {m m' : Meters} {u : Update}
    (h : Conserved s m) (results : List (ValidatedCall × ToolResult))
    (executed : m'.executed = m.executed ++ results)
    (seq : m'.seq = m.seq + u.steps.length)
    (seqs : u.steps.map InvestigationStep.seq = List.range' (m.seq + 1) u.steps.length)
    (calls : callTrace u.steps = results.map callEntry)
    (silent : ∀ step ∈ u.steps, step.kind ≠ .toolCall → step.evidenceIds = [])
    (evidence : u.evidence = results.flatMap fun c => c.2.evidence) :
    Conserved (s.merge u) m' where
  seqs := by
    rw [merge_steps, List.map_append, h.seqs, seqs, seq, Nat.add_comm m.seq 1,
      List.range'_append_1]
  calls := by
    rw [merge_steps, callTrace_append, h.calls, calls, executed, List.map_append]
  silent := by
    intro step member
    rw [merge_steps, List.mem_append] at member
    obtain old | new := member
    · exact h.silent step old
    · exact silent step new
  evidence := by
    rw [merge_evidence, h.evidence, evidence, executed, List.flatMap_append]

/-- An update without trace entries or evidence, after which no call was made. -/
lemma Conserved.quiet {s : InvestigationState} {m : Meters} {u : Update} (h : Conserved s m)
    (steps : u.steps = []) (evidence : u.evidence = []) : Conserved (s.merge u) m := by
  refine h.extend [] (by simp) ?_ ?_ ?_ ?_ ?_ <;> simp [steps, evidence, callTrace]

/-- An update with one trace entry that is no tool call. -/
lemma Conserved.note {s : InvestigationState} {m : Meters} {u : Update} {kind phase desc}
    (h : Conserved s m) (other : kind ≠ .toolCall)
    (steps : u.steps = [(step env m kind phase desc).1]) (evidence : u.evidence = []) :
    Conserved (s.merge u) (step env m kind phase desc).2 := by
  refine h.extend [] (by simp) ?_ ?_ ?_ ?_ ?_ <;>
    simp [steps, evidence, callTrace, other]

/-- A call that was executed is the last one, and nothing else changed that the trace shows. -/
lemma executed_call {m m' : Meters} {call result}
    (e : runValidatedCall deps env m call = (.ok result, m')) :
    m'.executed = m.executed ++ [(call, result)] ∧ m'.seq = m.seq := by
  obtain ⟨_, _, other, _⟩ | ⟨_, ctx, _, same, rfl⟩ := runValidatedCall_cases e
  · cases other
  · cases same
    exact ⟨rfl, rfl⟩

/-- The error of the model boundary adds nothing. -/
lemma Conserved.refused {s : InvestigationState} {m : Meters} {exc u} (h : Conserved s m)
    (e : llmTerminal exc = .ok u) : Conserved (s.merge u) m := by
  obtain ⟨status, reason, _, same⟩ | ⟨name, same⟩ := llmTerminal_cases exc
  · rw [same] at e
    cases e
    exact h.quiet rfl rfl
  · rw [same] at e
    cases e

/-- A node that drops nothing keeps the accounts, unless an exception leaves it. -/
theorem Conserved.step {e e' : Engine} (reported : Reported e)
    (h : Conserved e.state e.meters) (drops : DropsNothing deps e env)
    (st : (investigation deps).step e env = some e') :
    (∃ escaped, e'.position = .raised escaped) ∨ Conserved e'.state e'.meters := by
  obtain ⟨node, standing, rfl⟩ := investigation_step st
  have effect : Effect deps env e.meters e.state node
    (runNode deps env e.meters e.state node) := effect_of_run
  generalize same : runNode deps env e.meters e.state node = r at effect
  obtain ⟨escaped | u, m⟩ := r
  · exact .inl ⟨escaped, rfl⟩
  right
  show Conserved (e.state.merge u) m
  generalize packed : ((.ok u, m) : NodeResult) = r at effect
  cases effect with
  | timedOut exceeded | collectTimedOut within pending exceeded | collectEmpty within nothing =>
    cases packed
    exact h.quiet rfl rfl
  | degraded exceeded counting there | hopeless within answered none_left
  | planned within answered some_left | collectStopped within pending exceeded counting
  | verified within answered enough | inconclusive within answered more
  | synthesized within answered | fallback cause passed | repair present rejected once
  | accepted present passed =>
    cases packed
    exact h.note (by decide) rfl rfl
  | invalidId | verifyInvalid | synthesizeInvalid | validateInvalid => cases packed
  | notLoaded valid exceeded =>
    cases packed
    exact h.note (by decide) rfl rfl
  -- a load that drops nothing has not failed
  | loadFailed called failed =>
    cases packed
    obtain ⟨fine, ev, one⟩ := drops.1 standing _ _ called
    obtain bad | none_left := failed
    · rw [fine] at bad
      cases bad
    · rw [one] at none_left
      cases none_left
  | @loaded result ev rest m' desc called fine found =>
    cases packed
    obtain ⟨_, ev', one⟩ := drops.1 standing _ _ called
    cases found.symm.trans one
    obtain ⟨executed, seq⟩ := executed_call called
    have seq' : m'.seq = e.meters.seq + 1 := seq
    have entry : callEntry (incidentCall deps, result) =
        (some (str ToolName.getIncident), [ev.id]) := by
      simp [callEntry, incidentCall, found, evidenceIds]
    refine h.extend [(incidentCall deps, result)] ?_ ?_ ?_ ?_ ?_ ?_
    · rw [step_executed, executed]
      rfl
    · rw [step_seq, seq']
      rfl
    · simp [startedStep, seq', List.range'_succ]
    · simp [callTrace, startedStep, entry]
    · simp [startedStep]
    · simp [found]
  | planRefused within answered | verifyRefused within answered
  | synthesizeRefused within answered =>
    obtain ⟨eu, em⟩ := Prod.mk.inj packed
    rw [em]
    exact h.refused eu.symm
  | @collected call queue result m' desc more within pending called again =>
    cases packed
    obtain ⟨executed, seq⟩ := executed_call called
    refine h.extend [(call, result)] ?_ ?_ ?_ ?_ ?_ ?_
    · rw [step_executed, executed]
    · rw [step_seq, seq]
      rfl
    · simp [seq]
    · simp [callTrace, callEntry]
    · simp
    · simp
  -- a refused analysis loses the trace of the calls that it had drained
  | @analyzeRefused steps evidence m' exc within drains answered =>
    obtain ⟨results, d⟩ := drained drains
    obtain ⟨no_evidence, no_steps | answers⟩ := drops.2 standing within _ _ _ drains
    · have none_made : results = [] := by
        have trace := d.trace
        rw [no_steps, List.map_nil] at trace
        exact List.map_eq_nil_iff.mp trace.symm
      obtain ⟨eu, em⟩ := Prod.mk.inj packed
      obtain ⟨status, reason, _, same⟩ | ⟨name, same⟩ := llmTerminal_cases exc
      · rw [same] at eu
        cases eu
        cases em
        refine h.extend results d.executed ?_ ?_ ?_ ?_ ?_ <;>
          simp [d.seq, none_made, callTrace]
      · rw [same] at eu
        cases eu
    · obtain ⟨name, rfl⟩ := answers exc answered
      cases (Prod.mk.inj packed).1
  | @analyzed steps evidence m' result desc within drains answered =>
    cases packed
    obtain ⟨results, d⟩ := drained drains
    obtain ⟨no_evidence, _⟩ := drops.2 standing within _ _ _ drains
    have count : steps.length = results.length := by
      have trace := congrArg List.length d.trace
      simpa using trace
    refine h.extend results d.executed ?_ ?_ ?_ ?_ ?_
    · simp [d.seq, count]
      omega
    · simp [d.seqs, d.seq, count, List.range'_concat, Nat.add_right_comm]
    · rw [callTrace_append, callTrace_of_calls d.kinds, d.trace]
      simp [callTrace]
    · intro s member other
      rw [List.mem_append] at member
      obtain called | last := member
      · exact absurd (d.kinds s called) other
      · cases List.mem_singleton.mp last
        rfl
    · rw [← d.evidence, no_evidence]
  | fallbackInvalid rejected _ calls =>
    rw [buildFallbackReport_valid reported.grounded] at rejected
    cases rejected

/-- A conserved state persists all it accounts for. -/
lemma Conserved.conserves {e : Engine} (h : Conserved e.state e.meters)
    (ended : e.position = .ended) :
    Conserves (completion deps e.invocation) e.meters.executed := by
  have steps : (completion deps e.invocation).steps = e.state.steps := by
    simp [Engine.invocation, ended, completion]
  have evidence : (completion deps e.invocation).evidence = e.state.evidence := by
    simp [Engine.invocation, ended, completion]
  refine ⟨?_, ?_, ?_, ?_⟩
  · intro call member ev found
    rw [evidence, h.evidence]
    exact List.mem_flatMap.mpr ⟨call, member, found⟩
  · intro s member id cited
    rw [steps] at member
    by_cases called : s.kind = .toolCall
    · have shown : (s.toolName, s.evidenceIds) ∈ callTrace e.state.steps := by
        unfold callTrace
        exact List.mem_map.mpr ⟨s, List.mem_filter.mpr ⟨member, by simpa using called⟩, rfl⟩
      rw [h.calls] at shown
      obtain ⟨call, made, same⟩ := List.mem_map.mp shown
      have ids : evidenceIds call.2.evidence = s.evidenceIds := congrArg Prod.snd same
      rw [← ids] at cited
      obtain ⟨ev, found, rfl⟩ := List.mem_map.mp cited
      rw [evidence, h.evidence]
      exact List.mem_map.mpr ⟨ev, List.mem_flatMap.mpr ⟨call, made, found⟩, rfl⟩
    · rw [h.silent s member called] at cited
      cases cited
  · rw [steps]
    exact h.calls
  · have count := congrArg List.length h.seqs
    rw [List.length_map, List.length_range'] at count
    rw [steps, h.seqs, count]

/-- When the graph returns from a run whose nodes drop nothing, all evidence is persisted, every
cited id is that of persisted evidence and the trace shows each executed call once, with numbers
without gaps. -/
theorem evidence_and_trace_conserved {envs e}
    (r : (investigation deps).Run (start deps) envs e) (ended : e.position = .ended)
    (each : (investigation deps).EachStep (fun e env _ => DropsNothing deps e env) (start deps)
      envs) : Conserves (completion deps e.invocation) e.meters.executed := by
  have accounts : Reported e ∧
      ((∃ escaped, e.position = .raised escaped) ∨ Conserved e.state e.meters) := by
    refine r.invariant_of (I := fun e => Reported e ∧
      ((∃ escaped, e.position = .raised escaped) ∨ Conserved e.state e.meters)) each ?_
      ⟨reported_start, .inr conserved_start⟩
    rintro s env s' ⟨reported, left | h⟩ drops st
    · obtain ⟨escaped, left⟩ := left
      obtain ⟨node, standing, _⟩ := investigation_step st
      rw [left] at standing
      cases standing
    · exact ⟨reported.step st, h.step reported drops st⟩
  obtain ⟨_, left | h⟩ := accounts
  · obtain ⟨escaped, left⟩ := left
    rw [ended] at left
    cases left
  · exact h.conserves ended

/-- A test that implies that nothing is dropped: there is nothing to follow up. -/
def loadsOneItem (deps : GraphDeps β) (e : Engine) (env : NodeEnv β) : Bool :=
  match e.position with
  | .running .initialise =>
    match (runValidatedCall deps env (startedMeters deps env e.meters) (incidentCall deps)).1 with
    | .ok result => result.ok && decide (result.evidence.length = 1)
    | .error _ => true
  | .running .analyze => e.state.queue.isEmpty
  | _ => true

/-- The test is sound. -/
lemma dropsNothing_of_test {e : Engine} (passed : loadsOneItem deps e env = true) :
    DropsNothing deps e env := by
  unfold loadsOneItem at passed
  constructor
  · intro standing result m' called
    rw [standing] at passed
    simp only [called, Bool.and_eq_true, decide_eq_true_eq] at passed
    exact ⟨passed.1, List.length_eq_one_iff.mp passed.2⟩
  · intro standing _ steps evidence m' drains
    rw [standing] at passed
    rw [List.isEmpty_iff.mp passed] at drains
    cases drains
    exact ⟨rfl, .inl rfl⟩

/-- An investigation that collects two items and persists them with their trace. -/
theorem evidence_and_trace_conserved_default :
    ∃ e, (investigation (sampleDeps {})).Run (start (sampleDeps {}))
        (List.replicate 7 (sampleEnv sampleReplies)) e ∧
      Conserves (completion (sampleDeps {}) e.invocation) e.meters.executed ∧
      e.meters.executed.length = 2 := by
  have checked : (investigation (sampleDeps {})).check (loadsOneItem (sampleDeps {}))
      (fun e => decide (e.position = .ended ∧ e.meters.executed.length = 2))
      (start (sampleDeps {})) (List.replicate 7 (sampleEnv sampleReplies)) = true := by
    decide +kernel
  obtain ⟨e, r, final, each⟩ := Machine.run_of_check
    (Q := fun e env _ => DropsNothing (sampleDeps {}) e env)
    (fun _ _ _ passed => dropsNothing_of_test passed) checked
  obtain ⟨ended, two⟩ := of_decide_eq_true final
  exact ⟨e, r, evidence_and_trace_conserved r ended each, two⟩

/-- A model that asks for one follow-up call. -/
def followsUp : LlmReplies :=
  { sampleReplies with
    verify := fun request =>
      .ok { needsMoreEvidence := request.reanalysisAllowed
            additionalCalls :=
              [{ tool := "get_service_health"
                 arguments := object [("service", .str "checkout")] }] } }

/-- The evidence of the follow-up call is not persisted, and a trace entry cites it. -/
theorem followUp_evidence_lost :
    ∃ e, (investigation (sampleDeps {})).Run (start (sampleDeps {}))
        (List.replicate 9 (sampleEnv followsUp)) e ∧ e.position = .ended ∧
      ¬ Conserves (completion (sampleDeps {}) e.invocation) e.meters.executed := by
  have whole : ((investigation (sampleDeps {})).exec (start (sampleDeps {}))
      (List.replicate 9 (sampleEnv followsUp))).map (fun e => (e.position,
        (completion (sampleDeps {}) e.invocation).steps.flatMap InvestigationStep.evidenceIds,
        evidenceIds (completion (sampleDeps {}) e.invocation).evidence)) =
      some (.ended, ["ev_001", "ev_002", "ev_003"], ["ev_001", "ev_002"]) := by decide +kernel
  obtain ⟨e, run, facts⟩ := Option.map_eq_some_iff.mp whole
  obtain ⟨ended, facts⟩ := Prod.mk.inj facts
  obtain ⟨cited, persisted⟩ := Prod.mk.inj facts
  refine ⟨e, Machine.run_iff_exec.mpr run, ended, ?_⟩
  intro conserves
  have third : "ev_003" ∈ (completion (sampleDeps {}) e.invocation).steps.flatMap
      InvestigationStep.evidenceIds := by
    rw [cited]
    decide
  obtain ⟨s, member, id⟩ := List.mem_flatMap.mp third
  have found := conserves.cited s member _ id
  rw [persisted] at found
  revert found
  decide

end SentinelOps.Rca
