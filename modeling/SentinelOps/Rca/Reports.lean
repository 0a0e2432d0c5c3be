import SentinelOps.Rca.Statuses

/-!
# Only validated reports are persisted

The draft of the report stays in the state of the graph from its synthesis on, also after the
validation rejected it. `Reported` says where a draft can be; a rejected one is persisted exactly
when the synthesis that was to repair it ends in TIMED_OUT or FAILED.
-/

namespace SentinelOps.Rca

variable {β : Type} {deps : GraphDeps β} {env : NodeEnv β}

/-- What is persisted is a validated report of an analysis that came to a conclusion, or none. -/
def PersistsOnlyValidated (c : Completion) : Prop :=
  ∀ report ∈ c.report, validateReport report (evidenceIds c.evidence) = .ok () ∧
    c.status ≠ .failed ∧ c.status ≠ .timedOut

/-- The synthesis that repairs a rejected draft is not stopped by the clock and the model does not
answer it with an error. -/
def RepairCompletes (deps : GraphDeps β) (e : Engine) (env : NodeEnv β) : Prop :=
  e.position = .running .synthesize → 0 < e.state.repairCount →
    checkLimits e.meters.usage deps.limits env.guardAt ≠ .error .time ∧
    (checkLimits e.meters.usage deps.limits env.guardAt = .ok () →
      ∀ exc, env.llm.synthesize (synthesizeRequest deps e.state) = .error exc →
        ∃ name, exc = .other name)

/-- Where a draft can be, and what the hypotheses cite. -/
structure Reported (e : Engine) : Prop where
  staged : Staged e
  counted : StagesCounted e
  grounded : ∀ h ∈ e.state.hypotheses, h.Grounded (evidenceIds e.state.evidence)
  early : ∀ node, e.position = .running node → node ∉ [Node.synthesize, .validate] →
    e.state.rca = none
  first : e.position = .running .synthesize → (e.state.rca = none ↔ e.state.repairCount = 0)

/-- The report of an investigation that is over is validated and concludes it. -/
def Sound (e : Engine) : Prop :=
  e.position = .ended → ∀ report ∈ e.state.rca,
    validateReport report (evidenceIds e.state.evidence) = .ok () ∧
      e.state.status ≠ .failed ∧ e.state.status ≠ .timedOut

/-- The ids that are kept were collected. -/
lemma mem_keepIds {ids known : List String} {i} (h : i ∈ keepIds ids known) : i ∈ known := by
  simpa using (List.mem_filter.mp h).2

/-- The hypotheses of a verification cite collected evidence only. -/
lemma judgeAll_grounded {verdicts known proposed} :
    ∀ h ∈ judgeAll verdicts known proposed, h.Grounded known := by
  intro h member
  obtain ⟨i, lt, rfl⟩ := List.mem_mapIdx.mp member
  intro id cited
  simp only [judge, List.mem_append] at cited
  obtain pro | con := cited
  · exact mem_keepIds pro
  · exact mem_keepIds con

/-- More evidence keeps the hypotheses grounded. -/
lemma grounded_append {hypotheses : List Hypothesis} {old new : List Evidence}
    (h : ∀ h ∈ hypotheses, h.Grounded (evidenceIds old)) :
    ∀ h ∈ hypotheses, h.Grounded (evidenceIds (old ++ new)) := by
  intro hypothesis member
  refine (h hypothesis member).mono ?_
  unfold evidenceIds
  rw [List.map_append]
  exact List.subset_append_left _ _

/-- A new investigation has no draft. -/
lemma reported_start : Reported (start deps) where
  staged := staged_start
  counted := ⟨rfl, rfl, rfl, rfl⟩
  grounded := by
    intro _ member
    cases member
  early _ _ _ := rfl
  first standing := by cases standing

/-- Where the graph is left, only the hypotheses matter. -/
lemma Reported.of_over {e : Engine} (finish : e.position.Finished) (staged : Staged e)
    (counted : StagesCounted e)
    (grounded : ∀ h ∈ e.state.hypotheses, h.Grounded (evidenceIds e.state.evidence)) :
    Reported e where
  staged := staged
  counted := counted
  grounded := grounded
  early node standing := absurd standing (finish node)
  first standing := absurd standing (finish _)

/-- The repair count is still zero before the synthesis. -/
lemma StagesCounted.no_repair {e : Engine} {node} (h : StagesCounted e)
    (standing : e.position = .running node) (early : node ∉ [Node.synthesize, .validate]) :
    e.state.repairCount = 0 := by
  unfold StagesCounted at h
  rw [standing] at h
  cases node with
  | initialise | plan | collect => exact h.2.1
  | analyze | verify => exact h.2.1
  | synthesize | validate => exact absurd (by decide) early

/-- An error of the model boundary touches nothing but the status. -/
lemma llmTerminal_eq_ok {exc u} (h : llmTerminal exc = .ok u) :
    u.rca = none ∧ u.hypotheses = none := by
  obtain ⟨status, reason, _, same⟩ | ⟨name, same⟩ := llmTerminal_cases exc
  · rw [same] at h
    cases h
    exact ⟨rfl, rfl⟩
  · rw [same] at h
    cases h

/-- Before the synthesis no node writes a draft. -/
lemma Effect.rca_eq_none {m : Meters} {state node r} (effect : Effect deps env m state node r)
    (early : node ∉ [Node.synthesize, .validate]) {u m'} (h : r = (.ok u, m')) :
    u.rca = none := by
  cases effect with
  | planRefused | analyzeRefused | verifyRefused =>
    exact (llmTerminal_eq_ok (congrArg Prod.fst h)).1
  | synthesizeRefused | synthesizeInvalid | synthesized | validateInvalid | fallbackInvalid
  | fallback | repair | accepted => exact absurd (by decide) early
  | invalidId | verifyInvalid => cases h
  | timedOut | degraded | notLoaded | loadFailed | loaded | hopeless | planned | collectEmpty
  | collectTimedOut | collectStopped | collected | analyzed | verified | inconclusive =>
    cases h
    rfl

/-- Hypotheses are written by the verification, from the evidence collected so far. -/
lemma Effect.grounded {m : Meters} {state node r} (effect : Effect deps env m state node r)
    {u m' hs} (h : r = (.ok u, m')) (new : u.hypotheses = some hs) :
    ∀ h ∈ hs, h.Grounded (evidenceIds (state.evidence ++ u.evidence)) := by
  cases effect with
  | planRefused | analyzeRefused | verifyRefused | synthesizeRefused =>
    rw [(llmTerminal_eq_ok (congrArg Prod.fst h)).2] at new
    cases new
  | verified | inconclusive =>
    cases h
    cases new
    exact grounded_append judgeAll_grounded
  | invalidId | verifyInvalid | synthesizeInvalid | validateInvalid => cases h
  | timedOut | degraded | notLoaded | loadFailed | loaded | hopeless | planned | collectEmpty
  | collectTimedOut | collectStopped | collected | analyzed | synthesized | fallbackInvalid
  | fallback | repair | accepted =>
    cases h
    cases new

/-- A validation that asks for a repair leaves the rejected draft where it is. -/
lemma Effect.repair_draft {m : Meters} {state r} (effect : Effect deps env m state .validate r)
    {u m' node} (h : r = (.ok u, m')) (goes : route (state.merge u) = .running node) :
    u.rca = none ∧ state.rca ≠ none := by
  cases effect with
  | timedOut _ reachable => exact absurd rfl reachable
  | degraded _ _ there => cases there
  | validateInvalid => cases h
  | fallbackInvalid | fallback | accepted =>
    cases h
    rw [route_terminal] at goes
    cases goes
  | repair present =>
    cases h
    rw [present]
    exact ⟨rfl, by simp⟩

/-- Every node keeps the draft where it may be. -/
lemma Reported.step {e e' : Engine} (h : Reported e)
    (st : (investigation deps).step e env = some e') : Reported e' := by
  have staged := h.staged.step st
  have counted := h.counted.step st
  have move := moved st
  obtain ⟨node, standing, rfl⟩ := investigation_step st
  have effect : Effect deps env e.meters e.state node
    (runNode deps env e.meters e.state node) := effect_of_run
  generalize runNode deps env e.meters e.state node = r at effect staged counted move
  obtain ⟨escaped | u, m⟩ := r
  · exact .of_over (fun _ goes => by cases goes) staged counted h.grounded
  have grounded : ∀ h ∈ (e.state.merge u).hypotheses,
      h.Grounded (evidenceIds (e.state.merge u).evidence) := by
    rw [merge_hypotheses, merge_evidence]
    cases new : u.hypotheses with
    | none => exact grounded_append h.grounded
    | some hs => exact effect.grounded rfl new
  obtain finish | move := move
  · exact .of_over finish staged counted grounded
  have unchanged (early : node ∉ [Node.synthesize, .validate]) :
      (e.state.merge u).rca = none := by
    show (u.rca <|> e.state.rca) = none
    rw [effect.rca_eq_none early rfl, h.early node standing early]
    rfl
  have from_early (early : node ∉ [Node.synthesize, .validate])
      (same : (e.state.merge u).repairCount = e.state.repairCount) :
      (e.state.merge u).rca = none ↔ (e.state.merge u).repairCount = 0 := by
    refine iff_of_true (unchanged early) ?_
    rw [same]
    exact h.counted.no_repair standing early
  refine ⟨staged, counted, grounded, ?_, ?_⟩
  · intro other goes early
    apply unchanged
    cases move with
    | skip there here goes' re rep =>
      cases standing.symm.trans here
      cases goes.symm.trans goes'
      cases node <;> cases there <;> first | decide | exact absurd (by decide) early
    | load here goes' re rep | plan here goes' _ _ re rep | collectMore here goes' _ _ re rep
    | collected here goes' re rep | analyzed here goes' re rep | reanalyze here goes' _ re rep
    | verified here goes' re rep =>
      cases standing.symm.trans here
      decide
    | synthesized here goes' re rep | repair here goes' _ rep re =>
      cases goes.symm.trans goes'
      exact absurd (by decide) early
  · intro goes
    cases move with
    | skip there here goes' re rep =>
      cases standing.symm.trans here
      cases goes.symm.trans goes'
      cases node <;> cases there <;> exact from_early (by decide) rep
    | verified here goes' re rep =>
      cases standing.symm.trans here
      exact from_early (by decide) rep
    | repair here goes' less rep re =>
      cases standing.symm.trans here
      obtain ⟨same, some_left⟩ := effect.repair_draft rfl goes
      refine iff_of_false ?_ (by rw [rep]; exact Nat.succ_ne_zero _)
      show ¬ (u.rca <|> e.state.rca) = none
      rw [same]
      exact some_left
    | load here goes' re rep | plan here goes' _ _ re rep | collectMore here goes' _ _ re rep
    | collected here goes' re rep | analyzed here goes' re rep | reanalyze here goes' _ re rep
    | synthesized here goes' re rep =>
      cases goes.symm.trans goes'

/-- An update that ends the graph without a new report is sound exactly when there is no draft, or
the draft is validated and the status is no abort. -/
lemma sound_of_no_draft {e : Engine} {node status reason extra m} (none_new : extra.rca = none)
    (none_left : e.state.rca = none) :
    Sound (e.after node (.ok (terminal status reason extra), m)) := by
  intro _ report present
  obtain new | ⟨_, old⟩ := merge_rca.mp present
  · rw [terminal_rca, none_new] at new
    cases new
  · rw [none_left] at old
    cases old

/-- An abort with a draft is not sound. -/
lemma not_sound_of_draft {e : Engine} {node status reason extra m} (none_new : extra.rca = none)
    (some_left : e.state.rca ≠ none) (aborted : status = .failed ∨ status = .timedOut) :
    ¬ Sound (e.after node (.ok (terminal status reason extra), m)) := by
  intro sound
  obtain ⟨report, present⟩ := Option.ne_none_iff_exists'.mp some_left
  have kept : (e.state.merge (terminal status reason extra)).rca = some report := by
    rw [merge_rca, terminal_rca, none_new]
    exact .inr ⟨rfl, present⟩
  obtain ⟨_, not_failed, not_timedOut⟩ := sound route_terminal report kept
  obtain rfl | rfl := aborted
  · exact not_failed rfl
  · exact not_timedOut rfl

/-- A node keeps what would be persisted sound exactly when it is no synthesis that was to repair a
draft and aborts. -/
theorem sound_step {e e' : Engine} (h : Reported e)
    (st : (investigation deps).step e env = some e') : Sound e' ↔ RepairCompletes deps e env := by
  obtain ⟨node, standing, rfl⟩ := investigation_step st
  have effect : Effect deps env e.meters e.state node
    (runNode deps env e.meters e.state node) := effect_of_run
  generalize runNode deps env e.meters e.state node = r at effect
  have elsewhere (other : node ≠ .synthesize) : RepairCompletes deps e env := by
    intro here
    cases standing.symm.trans here
    exact absurd rfl other
  have goes_on {r nxt} (goes : (e.after node r).position = .running nxt) :
      Sound (e.after node r) := by
    intro finish
    rw [goes] at finish
    cases finish
  have left {x m} : Sound (e.after node (.error x, m)) := by
    intro finish
    cases finish
  have no_draft (early : node ∉ [Node.synthesize, .validate]) : e.state.rca = none :=
    h.early node standing early
  have refused_early {exc m} (early : node ∉ [Node.synthesize, .validate]) :
      Sound (e.after node (llmTerminal exc, m)) := by
    obtain ⟨status, reason, _, same⟩ | ⟨name, same⟩ := llmTerminal_cases exc
    · rw [same]
      exact sound_of_no_draft rfl (no_draft early)
    · rw [same]
      exact left
  -- an abort of the synthesis is sound before the first draft only
  have aborts {status reason m} (here : node = .synthesize)
      (aborted : status = .failed ∨ status = .timedOut)
      (blocked : 0 < e.state.repairCount → ¬ RepairCompletes deps e env) :
      Sound (e.after node (.ok (terminal status reason), m)) ↔ RepairCompletes deps e env := by
    subst here
    by_cases none_left : e.state.repairCount = 0
    · refine iff_of_true (sound_of_no_draft rfl ((h.first standing).mpr none_left)) ?_
      intro _ some_left
      omega
    · have some_left : e.state.rca ≠ none := fun none => none_left ((h.first standing).mp none)
      exact iff_of_false (not_sound_of_draft rfl some_left aborted)
        (blocked (Nat.pos_of_ne_zero none_left))
  have completes {synthesis} (within : checkLimits e.meters.usage deps.limits env.guardAt = .ok ())
      (answered : env.llm.synthesize (synthesizeRequest deps e.state) = .ok synthesis) :
      RepairCompletes deps e env := by
    intro _ _
    refine ⟨?_, ?_⟩
    · intro exceeded
      cases within.symm.trans exceeded
    · intro _ exc refused
      cases answered.symm.trans refused
  cases effect with
  | timedOut exceeded reachable =>
    cases node with
    | initialise | validate => exact absurd rfl reachable
    | plan | collect | analyze | verify =>
      exact iff_of_true (sound_of_no_draft rfl (no_draft (by decide))) (elsewhere (by decide))
    | synthesize =>
      refine aborts rfl (.inr rfl) ?_
      intro some_left completes
      exact (completes standing some_left).1 exceeded
  | @degraded _ nxt status kind phase desc exceeded counting there =>
    have completes' : RepairCompletes deps e env := by
      intro _ _
      constructor
      · intro isTime
        cases exceeded.symm.trans isTime
        exact counting rfl
      · intro within
        cases exceeded.symm.trans within
    cases node <;> cases there <;> exact iff_of_true (goes_on rfl) completes'
  | invalidId invalid => exact iff_of_true left (elsewhere (by decide))
  | notLoaded valid exceeded =>
    exact iff_of_true (sound_of_no_draft rfl (no_draft (by decide))) (elsewhere (by decide))
  | loadFailed called failed =>
    exact iff_of_true (sound_of_no_draft rfl (no_draft (by decide))) (elsewhere (by decide))
  | hopeless within answered none_left =>
    exact iff_of_true (sound_of_no_draft rfl (no_draft (by decide))) (elsewhere (by decide))
  | collectTimedOut within pending exceeded =>
    exact iff_of_true (sound_of_no_draft rfl (no_draft (by decide))) (elsewhere (by decide))
  | planRefused within answered | analyzeRefused within drains answered
  | verifyRefused within answered =>
    exact iff_of_true (refused_early (by decide)) (elsewhere (by decide))
  | loaded called fine found => exact iff_of_true (goes_on rfl) (elsewhere (by decide))
  | planned within answered some_left => exact iff_of_true (goes_on rfl) (elsewhere (by decide))
  | collectEmpty within nothing => exact iff_of_true (goes_on rfl) (elsewhere (by decide))
  | collectStopped within pending exceeded counting =>
    exact iff_of_true (goes_on rfl) (elsewhere (by decide))
  | @collected call queue result m' desc more within pending called again =>
    refine iff_of_true ?_ (elsewhere (by decide))
    intro finish report present
    obtain new | ⟨_, old⟩ := merge_rca.mp present
    · cases new
    · rw [no_draft (by decide)] at old
      cases old
  | analyzed within drains answered => exact iff_of_true (goes_on rfl) (elsewhere (by decide))
  | verifyInvalid within => exact iff_of_true left (elsewhere (by decide))
  | verified within answered enough => exact iff_of_true (goes_on rfl) (elsewhere (by decide))
  | inconclusive within answered more => exact iff_of_true (goes_on rfl) (elsewhere (by decide))
  | @synthesizeRefused exc within answered =>
    cases exc with
    | timeout text =>
      refine aborts rfl (.inr rfl) ?_
      intro some_left completes
      obtain ⟨name, other⟩ := (completes standing some_left).2 within _ answered
      cases other
    | error name text =>
      refine aborts rfl (.inl rfl) ?_
      intro some_left completes
      obtain ⟨name, other⟩ := (completes standing some_left).2 within _ answered
      cases other
    | other name =>
      refine iff_of_true left ?_
      intro _ _
      refine ⟨?_, ?_⟩
      · intro exceeded
        cases within.symm.trans exceeded
      · intro _ exc refused
        cases answered.symm.trans refused
        exact ⟨name, rfl⟩
  | synthesizeInvalid within answered => exact iff_of_true left (completes within answered)
  | synthesized within answered => exact iff_of_true (goes_on rfl) (completes within answered)
  | validateInvalid same calls => exact iff_of_true left (elsewhere (by decide))
  | fallbackInvalid rejected same calls =>
    rw [buildFallbackReport_valid h.grounded] at rejected
    cases rejected
  | fallback cause passed =>
    refine iff_of_true ?_ (elsewhere (by decide))
    intro _ report present
    obtain new | ⟨none_new, _⟩ := merge_rca.mp present
    · cases new
      refine ⟨?_, by simp, by simp⟩
      simpa using passed
    · cases none_new
  | repair present rejected once => exact iff_of_true (goes_on rfl) (elsewhere (by decide))
  | accepted present passed =>
    refine iff_of_true ?_ (elsewhere (by decide))
    intro _ report present'
    obtain new | ⟨_, old⟩ := merge_rca.mp present'
    · cases new
    · cases present.symm.trans old
      obtain done | short := h.staged.draft _ present
      · refine ⟨?_, by simp [done], by simp [done]⟩
        simpa using passed
      · refine ⟨?_, by simp [short], by simp [short]⟩
        simpa using passed

/-- What is handed to the repository, when the graph was left. -/
lemma persists_iff_sound {e : Engine} (staged : Staged e) (finish : e.position.Finished) :
    PersistsOnlyValidated (completion deps e.invocation) ↔ Sound e := by
  unfold PersistsOnlyValidated Sound Engine.invocation
  match where_ : e.position with
  | .running node => exact absurd where_ (finish node)
  | .ended =>
    have final := staged.final where_
    simp [completion, final]
  | .raised escaped => simp [completion, InvestigationStatus.isTerminal]

/-- For every behaviour of the model, the tools and the clock, what is persisted is a validated
report with an analytical outcome or no report at all, exactly when no synthesis that was to repair
a rejected draft is stopped by the clock or answered with an error. -/
theorem persists_only_validated_iff (deps : GraphDeps β) (envs : ℕ → NodeEnv β) :
    PersistsOnlyValidated (runToCompletion deps envs) ↔
      ∀ n e, (investigation deps).Run (start deps) ((List.range n).map envs) e →
        RepairCompletes deps e (envs n) := by
  obtain ⟨n, e, r, finish, same⟩ := runToCompletion_run deps envs
  have staged : Staged e := r.invariant (fun _ _ _ h st => h.step st) staged_start
  have throughout := r.always_iff (I := Reported) (P := Sound)
    (fun _ _ _ h st => h.step st) (fun _ _ _ h _ st => sound_step h st)
    reported_start (fun finish => by cases finish)
  have idle : ∀ (e : Engine) (env : NodeEnv β), e.position.Finished → RepairCompletes deps e env :=
    fun e env finish standing => absurd standing (finish _)
  rw [same, persists_iff_sound staged finish, ← eachStep_stream r finish idle, ← throughout]
  constructor
  · intro sound envs1 envs2 u parts r1
    rw [parts] at r
    obtain ⟨t, first, rest⟩ := r.cut
    cases r1.deterministic first
    cases rest with
    | nil => exact sound
    | cons st _ =>
      obtain ⟨node, standing, _⟩ := investigation_step st
      intro ended
      rw [standing] at ended
      cases ended
  · intro always
    exact always _ [] e (by simp) r

/-- A model that leaves the uncertainty blank and then times out on the repair. -/
def blankThenTimeout : LlmReplies :=
  { sampleReplies with
    synthesize := fun request =>
      if request.repairErrors = [] then .ok (sampleSynthesis " ")
      else .error (.timeout "no answer within 30 s") }

/-- The rejected draft is persisted with the investigation that timed out. -/
theorem rejected_draft_persisted :
    (runToCompletion (sampleDeps {}) fun _ => sampleEnv blankThenTimeout).status = .timedOut ∧
      ¬ PersistsOnlyValidated
        (runToCompletion (sampleDeps {}) fun _ => sampleEnv blankThenTimeout) := by
  have outcome : ((runToCompletion (sampleDeps {}) fun _ => sampleEnv blankThenTimeout).status,
      (runToCompletion (sampleDeps {}) fun _ => sampleEnv blankThenTimeout).report.isSome) =
        (.timedOut, true) := by decide +kernel
  obtain ⟨timedOut, present⟩ := Prod.mk.inj outcome
  refine ⟨timedOut, ?_⟩
  intro validated
  obtain ⟨report, found⟩ := Option.isSome_iff_exists.mp present
  exact (validated report found).2.2 timedOut

end SentinelOps.Rca
