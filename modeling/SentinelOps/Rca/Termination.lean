import SentinelOps.Rca.Budget

/-!
# The graph terminates within its recursion limit

The three cycles of the graph are bounded by three counters: every collection takes a call from the
queue, a verification asks for more evidence at most once and a validation for a repair at most
once. `fuel` is the number of node executions that the counters leave, and every node lowers it.
-/

namespace SentinelOps.Rca

variable {β : Type} {deps : GraphDeps β} {env : NodeEnv β}

/-- How many nodes can still be executed. -/
def fuel (limits : ResourceLimits) (e : Engine) : Nat :=
  match e.position with
  | .running .initialise => limits.maxToolCalls + 9
  | .running .plan => limits.maxToolCalls + 8
  | .running .collect => e.state.queue.length + 8
  | .running .analyze => if e.state.reanalysisCount = 0 then 8 else 6
  | .running .verify => if e.state.reanalysisCount = 0 then 7 else 5
  | .running .synthesize => if e.state.repairCount = 0 then 4 else 2
  | .running .validate => if e.state.repairCount = 0 then 3 else 1
  | .ended | .raised _ => 0

/-- How often the two stages that can be repeated were executed at each place. -/
def StagesCounted (e : Engine) : Prop :=
  match e.position with
  | .running .initialise | .running .plan | .running .collect =>
    e.state.reanalysisCount = 0 ∧ e.state.repairCount = 0 ∧ e.executions .analyze = 0 ∧
      e.executions .synthesize = 0
  | .running .analyze =>
    e.state.reanalysisCount ≤ 1 ∧ e.state.repairCount = 0 ∧
      e.executions .analyze = e.state.reanalysisCount ∧ e.executions .synthesize = 0
  | .running .verify =>
    e.state.reanalysisCount ≤ 1 ∧ e.state.repairCount = 0 ∧
      e.executions .analyze = e.state.reanalysisCount + 1 ∧ e.executions .synthesize = 0
  | .running .synthesize =>
    e.state.repairCount ≤ 1 ∧ e.executions .analyze ≤ 2 ∧
      e.executions .synthesize = e.state.repairCount
  | .running .validate =>
    e.state.repairCount ≤ 1 ∧ e.executions .analyze ≤ 2 ∧
      e.executions .synthesize = e.state.repairCount + 1
  | .ended | .raised _ => e.executions .analyze ≤ 2 ∧ e.executions .synthesize ≤ 2

/-- A collection has something to collect. -/
def QueueReady (e : Engine) : Prop := e.position = .running .collect → e.state.queue ≠ []

@[simp] lemma executions_after {e : Engine} {node other r} :
    (e.after node r).executions other =
      e.executions other + if node = other then 1 else 0 := by
  obtain ⟨update | escaped, m⟩ := r <;> simp [Engine.executions, List.count_append, List.count_singleton]

/-- A stage is executed at most twice before the graph is left. -/
lemma StagesCounted.bounded {e : Engine} (h : StagesCounted e) (node : Node)
    (standing : e.position = .running node) :
    e.executions .analyze + (if node = .analyze then 1 else 0) ≤ 2 ∧
      e.executions .synthesize + (if node = .synthesize then 1 else 0) ≤ 2 := by
  unfold StagesCounted at h
  rw [standing] at h
  cases node <;> simp at h ⊢ <;> omega

/-- Leaving the graph keeps the stages counted. -/
lemma StagesCounted.finish {e : Engine} {node r} (h : StagesCounted e)
    (standing : e.position = .running node) (finish : (e.after node r).position.Finished) :
    StagesCounted (e.after node r) := by
  have bounded := h.bounded node standing
  unfold StagesCounted
  match where_ : (e.after node r).position with
  | .running other => exact absurd where_ (finish other)
  | .ended => simpa using bounded
  | .raised _ => simpa using bounded

/-- The control flow of the graph: where a node can lead, and what it does to the counters. -/
inductive Moved (limits : ResourceLimits) (e e' : Engine) : Prop where
  | load :
    e.position = .running .initialise → e'.position = .running .plan →
    e'.state.reanalysisCount = 0 → e'.state.repairCount = 0 → Moved limits e e'
  | plan :
    e.position = .running .plan → e'.position = .running .collect →
    e'.state.queue ≠ [] → e'.state.queue.length ≤ limits.maxToolCalls - e.meters.usage.toolCalls →
    e'.state.reanalysisCount = e.state.reanalysisCount →
    e'.state.repairCount = e.state.repairCount → Moved limits e e'
  | skip {node nxt status} :
    degradeNext node = some (nxt, status) →
    e.position = .running node → e'.position = .running nxt →
    e'.state.reanalysisCount = e.state.reanalysisCount →
    e'.state.repairCount = e.state.repairCount → Moved limits e e'
  | collectMore {call} :
    e.position = .running .collect → e'.position = .running .collect →
    e.state.queue = call :: e'.state.queue → e'.state.queue ≠ [] →
    e'.state.reanalysisCount = e.state.reanalysisCount →
    e'.state.repairCount = e.state.repairCount → Moved limits e e'
  | collected :
    e.position = .running .collect → e'.position = .running .analyze →
    e'.state.reanalysisCount = e.state.reanalysisCount →
    e'.state.repairCount = e.state.repairCount → Moved limits e e'
  | analyzed :
    e.position = .running .analyze → e'.position = .running .verify →
    e'.state.reanalysisCount = e.state.reanalysisCount →
    e'.state.repairCount = e.state.repairCount → Moved limits e e'
  | reanalyze :
    e.position = .running .verify → e'.position = .running .analyze →
    e.state.reanalysisCount < 1 → e'.state.reanalysisCount = e.state.reanalysisCount + 1 →
    e'.state.repairCount = e.state.repairCount → Moved limits e e'
  | verified :
    e.position = .running .verify → e'.position = .running .synthesize →
    e'.state.reanalysisCount = e.state.reanalysisCount →
    e'.state.repairCount = e.state.repairCount → Moved limits e e'
  | synthesized :
    e.position = .running .synthesize → e'.position = .running .validate →
    e'.state.reanalysisCount = e.state.reanalysisCount →
    e'.state.repairCount = e.state.repairCount → Moved limits e e'
  | repair :
    e.position = .running .validate → e'.position = .running .synthesize →
    e.state.repairCount < 1 → e'.state.repairCount = e.state.repairCount + 1 →
    e'.state.reanalysisCount = e.state.reanalysisCount → Moved limits e e'

/-- A follow-up needs a re-analysis that is still allowed. -/
lemma reanalysis_of_followUp {m : Meters} {state result} (h : followUp deps m state result ≠ []) :
    state.reanalysisCount < 1 := by
  unfold followUp at h
  split at h
  · rename_i wants
    exact wants.2
  · exact absurd rfl h

/-- A reply of the model that is an error leaves the graph. -/
lemma finished_of_refused {e : Engine} {node exc m} :
    (e.after node (llmTerminal exc, m)).position.Finished := by
  obtain ⟨status, reason, _, same⟩ | ⟨name, same⟩ := llmTerminal_cases exc
  · rw [same]
    intro other
    simp
  · rw [same]
    intro other
    simp

/-- Every node leaves the graph or moves along its control flow. -/
theorem moved {e e' : Engine} (st : (investigation deps).step e env = some e') :
    e'.position.Finished ∨ Moved deps.limits e e' := by
  obtain ⟨node, standing, rfl⟩ := investigation_step st
  have effect : Effect deps env e.meters e.state node
    (runNode deps env e.meters e.state node) := effect_of_run
  generalize runNode deps env e.meters e.state node = r at effect
  have ended {u m} (h : route (e.state.merge u) = .ended) :
      (e.after node (.ok u, m)).position.Finished := by
    intro other
    simp [h]
  cases effect with
  | timedOut exceeded => exact .inl (ended route_terminal)
  | @degraded _ nxt status kind phase desc exceeded counting there =>
    right
    refine .skip there standing ?_ rfl rfl
    cases node <;> cases there <;> rfl
  | invalidId invalid => exact .inl (fun _ => nofun)
  | notLoaded valid exceeded => exact .inl (ended route_terminal)
  | loadFailed called failed => exact .inl (ended route_terminal)
  | loaded called fine found => exact .inr (.load standing rfl rfl rfl)
  | planRefused within refused => exact .inl finished_of_refused
  | hopeless within answered none_left => exact .inl (ended route_terminal)
  | planned within answered some_left =>
    exact .inr (.plan standing rfl some_left (length_requestPlan answered) rfl rfl)
  | collectEmpty within nothing => exact .inr (.collected standing rfl rfl rfl)
  | collectTimedOut within pending exceeded => exact .inl (ended route_terminal)
  | collectStopped within pending exceeded counting =>
    exact .inr (.collected standing rfl rfl rfl)
  | @collected call queue result m' desc more within pending called again =>
    cases more with
    | false => exact .inr (.collected standing rfl rfl rfl)
    | true =>
      by_cases finish : e.state.status.isTerminal = true
      · exact .inl (ended (by simp [route_merge, finish]))
      · refine .inr (.collectMore standing (by simp [route_merge, finish]) pending ?_ rfl rfl)
        rintro rfl
        cases again
  | analyzeRefused within drains refused => exact .inl finished_of_refused
  | analyzed within drains answered => exact .inr (.analyzed standing rfl rfl rfl)
  | verifyRefused within refused => exact .inl finished_of_refused
  | verifyInvalid within => exact .inl (fun _ => nofun)
  | verified within answered enough => exact .inr (.verified standing rfl rfl rfl)
  | inconclusive within answered more =>
    exact .inr (.reanalyze standing rfl (reanalysis_of_followUp more) rfl rfl)
  | synthesizeRefused within refused => exact .inl finished_of_refused
  | synthesizeInvalid within answered => exact .inl (fun _ => nofun)
  | synthesized within answered => exact .inr (.synthesized standing rfl rfl rfl)
  | validateInvalid same calls => exact .inl (fun _ => nofun)
  | fallbackInvalid rejected same calls => exact .inl (ended route_terminal)
  | fallback cause passed => exact .inl (ended route_terminal)
  | repair present rejected once => exact .inr (.repair standing rfl once rfl rfl)
  | accepted present passed => exact .inl (ended route_terminal)

/-- The stages stay counted. -/
lemma StagesCounted.step {e e' : Engine} (h : StagesCounted e)
    (st : (investigation deps).step e env = some e') : StagesCounted e' := by
  obtain finish | move := moved st
  · obtain ⟨node, standing, rfl⟩ := investigation_step st
    exact h.finish standing finish
  · obtain ⟨node, standing, same⟩ := investigation_step st
    have analyses : e'.executions .analyze = e.executions .analyze +
      if node = .analyze then 1 else 0 := by rw [same, executions_after]
    have syntheses : e'.executions .synthesize = e.executions .synthesize +
      if node = .synthesize then 1 else 0 := by rw [same, executions_after]
    unfold StagesCounted at h ⊢
    rw [standing] at h
    cases move with
    | skip there here goes re rep =>
      cases standing.symm.trans here
      rw [goes]
      cases node <;> cases there <;> simp at h analyses syntheses ⊢ <;> omega
    | load here goes re rep | plan here goes _ _ re rep | collectMore here goes _ _ re rep
    | collected here goes re rep | analyzed here goes re rep | reanalyze here goes _ re rep
    | verified here goes re rep | synthesized here goes re rep | repair here goes _ rep re =>
      cases standing.symm.trans here
      rw [goes]
      simp at h analyses syntheses ⊢
      omega

/-- A collection always has something to collect. -/
lemma queueReady_step {e e' : Engine} (st : (investigation deps).step e env = some e') :
    QueueReady e' := by
  intro back
  obtain finish | move := moved st
  · exact absurd back (finish _)
  · cases move with
    | plan here goes some_left less re rep => exact some_left
    | collectMore here goes pending some_left re rep => exact some_left
    | skip there here goes re rep =>
      rw [goes] at back
      rename_i node _ _
      cases node <;> cases there <;> cases back
    | load here goes re rep | collected here goes re rep | analyzed here goes re rep
    | reanalyze here goes _ re rep | verified here goes re rep | synthesized here goes re rep
    | repair here goes _ rep re =>
      rw [goes] at back
      cases back

/-- There is fuel while the graph runs. -/
lemma fuel_pos (limits : ResourceLimits) {e : Engine} {node}
    (standing : e.position = .running node) : 0 < fuel limits e := by
  unfold fuel
  rw [standing]
  cases node with
  | analyze | verify | synthesize | validate =>
    dsimp only
    split <;> decide
  | initialise | plan | collect => exact Nat.succ_pos _

/-- There is no fuel outside the graph. -/
lemma fuel_eq_zero {limits : ResourceLimits} {e : Engine} (finish : e.position.Finished) :
    fuel limits e = 0 := by
  unfold fuel
  match where_ : e.position with
  | .running node => exact absurd where_ (finish node)
  | .ended => rfl
  | .raised _ => rfl

/-- What holds of every state of an investigation. -/
structure Paced (limits : ResourceLimits) (e : Engine) : Prop where
  counted : StagesCounted e
  ready : QueueReady e
  budgeted : Budgeted limits e

/-- Every node execution uses up fuel. -/
theorem fuel_lt {e e' : Engine} (h : Paced deps.limits e)
    (st : (investigation deps).step e env = some e') :
    fuel deps.limits e' < fuel deps.limits e := by
  obtain finish | move := moved st
  · obtain ⟨node, standing, rfl⟩ := investigation_step st
    rw [fuel_eq_zero finish]
    exact fuel_pos _ standing
  · have counted := h.counted
    unfold StagesCounted at counted
    unfold fuel
    cases move with
    | load here goes re rep =>
      rw [here, goes]
      exact Nat.lt_succ_self _
    | plan here goes some_left less re rep =>
      have one := h.budgeted.loaded here
      have calls := h.budgeted.counted
      have admissible := deps.limits.toolCalls_ok.1
      rw [here, goes]
      dsimp only
      omega
    -- a degraded node skips forward, never back
    | skip there here goes re rep =>
      rename_i node _ _
      have ready := h.ready
      rw [here] at counted
      rw [here, goes]
      cases node <;> cases there <;> simp only at counted ⊢
      · simp [rep, counted]
      · have some_left := List.length_pos_iff.mpr (ready here)
        split <;> omega
      · rw [rep]
        split <;> split <;> decide
      · rw [rep]
        split <;> split <;> decide
      · rw [rep]
        split <;> decide
    | collectMore here goes pending some_left re rep =>
      rw [here, goes]
      dsimp only
      rw [pending, List.length_cons]
      omega
    | collected here goes re rep =>
      have some_left := List.length_pos_iff.mpr (h.ready here)
      rw [here, goes]
      dsimp only
      split <;> omega
    | analyzed here goes re rep =>
      rw [here, goes]
      dsimp only
      rw [re]
      split <;> decide
    -- the way back from the verification is open once
    | reanalyze here goes less re rep =>
      rw [here, goes]
      dsimp only
      rw [re, if_neg (Nat.succ_ne_zero _)]
      split <;> omega
    | verified here goes re rep =>
      rw [here, goes]
      dsimp only
      split <;> split <;> decide
    | synthesized here goes re rep =>
      rw [here, goes]
      dsimp only
      rw [rep]
      split <;> decide
    -- and so is the one from the validation
    | repair here goes less rep re =>
      rw [here, goes]
      dsimp only
      rw [rep, if_neg (Nat.succ_ne_zero _), if_pos (Nat.lt_one_iff.mp less)]
      decide

/-- A new investigation. -/
lemma paced_start : Paced deps.limits (start deps) where
  counted := ⟨rfl, rfl, rfl, rfl⟩
  ready := nofun
  budgeted := budgeted_start

/-- What holds of an investigation is kept by every node. -/
lemma Paced.step {e e' : Engine} (h : Paced deps.limits e)
    (st : (investigation deps).step e env = some e') : Paced deps.limits e' where
  counted := h.counted.step st
  ready := queueReady_step st
  budgeted := h.budgeted.step st

/-- A run executes no more nodes than the fuel it starts with. -/
theorem length_run {envs e} (r : (investigation deps).Run (start deps) envs e) :
    envs.length + fuel deps.limits e ≤ deps.limits.maxToolCalls + 9 :=
  r.length_add_le (fun _ _ _ h st => h.step st) (fun _ _ _ h st => fuel_lt h st) paced_start

/-- The history has one entry for each executed node. -/
lemma length_history {envs e e'} (r : (investigation deps).Run e envs e') :
    e'.history.length = e.history.length + envs.length := by
  induction r with
  | nil => rfl
  | @cons e e1 e2 env envs st r ih =>
    obtain ⟨node, standing, rfl⟩ := investigation_step st
    rw [ih]
    obtain ⟨update | escaped, m⟩ := runNode deps env e.meters e.state node <;>
      simp <;> omega

/-- A run that is over is what the invocation returns. -/
lemma ainvoke_of_finished {envs : ℕ → NodeEnv β} {left n} {e : Engine}
    (finish : e.position.Finished) : ainvoke deps envs left n e = e.invocation := by
  unfold ainvoke Engine.invocation
  match where_ : e.position with
  | .running node => exact absurd where_ (finish node)
  | .ended => rfl
  | .raised _ => rfl

/-- With enough fuel in the recursion limit, the invocation runs until the graph is left. -/
theorem ainvoke_run (envs : ℕ → NodeEnv β) {left n e} (h : Paced deps.limits e)
    (enough : fuel deps.limits e ≤ left) :
    ∃ k e', (investigation deps).Run e ((List.range' n k).map envs) e' ∧ e'.position.Finished ∧
      ainvoke deps envs left n e = e'.invocation := by
  induction left generalizing n e with
  | zero =>
    have finish : e.position.Finished := by
      intro node standing
      have some_left := fuel_pos deps.limits standing
      omega
    exact ⟨0, e, .nil, finish, ainvoke_of_finished finish⟩
  | succ left ih =>
    by_cases finish : e.position.Finished
    · exact ⟨0, e, .nil, finish, ainvoke_of_finished finish⟩
    · obtain ⟨node, standing⟩ : ∃ node, e.position = .running node := by
        simpa [Position.Finished] using finish
      have st := investigation_step_of deps (envs n) standing
      have less := fuel_lt h st
      obtain ⟨k, e', r, finish', same⟩ := ih (n := n + 1) (h.step st) (by omega)
      refine ⟨k + 1, e', .cons st r, finish', ?_⟩
      rw [← same]
      conv_lhs => unfold ainvoke
      rw [standing]

/-- The recursion limit covers every investigation. -/
lemma fuel_start_le : fuel deps.limits (start deps) ≤ recursionLimit deps.limits := by
  show deps.limits.maxToolCalls + 9 ≤ _
  unfold recursionLimit
  omega

/-- What is handed to the repository is decided by the run that leaves the graph. -/
lemma runToCompletion_run (deps : GraphDeps β) (envs : ℕ → NodeEnv β) :
    ∃ n e, (investigation deps).Run (start deps) ((List.range n).map envs) e ∧
      e.position.Finished ∧ runToCompletion deps envs = completion deps e.invocation := by
  obtain ⟨n, e, r, finish, same⟩ := ainvoke_run envs (n := 0) paced_start fuel_start_le
  rw [← List.range_eq_range'] at r
  refine ⟨n, e, r, finish, ?_⟩
  rw [← same]
  rfl

/-- Outside the graph the stages were executed at most twice. -/
lemma StagesCounted.final {e : Engine} (h : StagesCounted e) (finish : e.position.Finished) :
    e.executions .analyze ≤ 2 ∧ e.executions .synthesize ≤ 2 := by
  unfold StagesCounted at h
  match where_ : e.position with
  | .running node => exact absurd where_ (finish node)
  | .ended =>
    rw [where_] at h
    exact h
  | .raised escaped =>
    rw [where_] at h
    exact h

/-- No node is executed once the graph was left. -/
lemma run_of_finished {e e' : Engine} {envs} (finish : e.position.Finished)
    (r : (investigation deps).Run e envs e') : envs = [] ∧ e' = e := by
  cases r with
  | nil => exact ⟨rfl, rfl⟩
  | cons st _ =>
    obtain ⟨node, standing, _⟩ := investigation_step st
    exact absurd standing (finish node)

/-- Against one stream, an investigation is over in one way only. -/
lemma finished_unique {envs : ℕ → NodeEnv β} {s e e' : Engine} {n n'}
    (r : (investigation deps).Run s ((List.range n).map envs) e)
    (r' : (investigation deps).Run s ((List.range n').map envs) e')
    (finish : e.position.Finished) (finish' : e'.position.Finished) : n = n' ∧ e = e' := by
  wlog le : n ≤ n' generalizing n n' e e'
  · obtain ⟨same, same'⟩ := this r' r finish' finish (Nat.le_of_not_le le)
    exact ⟨same.symm, same'.symm⟩
  · obtain ⟨d, rfl⟩ := Nat.exists_eq_add_of_le le
    rw [List.range_add, List.map_append] at r'
    obtain ⟨t, first, rest⟩ := r'.cut
    cases r.deterministic first
    obtain ⟨none_left, rfl⟩ := run_of_finished finish rest
    cases d with
    | zero => exact ⟨rfl, rfl⟩
    | succ d => simp [List.range_succ] at none_left

/-- Along a stream, a property of every executed node is one of every place a run reaches. -/
lemma eachStep_stream {Q : Engine → NodeEnv β → Prop} {envs : ℕ → NodeEnv β} {s e n}
    (r : (investigation deps).Run s ((List.range n).map envs) e) (finish : e.position.Finished)
    (idle : ∀ e env, e.position.Finished → Q e env) :
    (investigation deps).EachStep (fun e env _ => Q e env) s ((List.range n).map envs) ↔
      ∀ k u, (investigation deps).Run s ((List.range k).map envs) u → Q u (envs k) := by
  constructor
  · intro each k u r'
    obtain before | after := Nat.lt_or_ge k n
    · obtain ⟨d, rfl⟩ := Nat.exists_eq_add_of_lt before
      have parts : (List.range (k + d + 1)).map envs =
          (List.range k).map envs ++ envs k :: ((List.range d).map fun i => envs (k + (i + 1))) := by
        rw [Nat.add_assoc, List.range_add, List.range_succ_eq_map]
        simp
      rw [parts] at r each
      obtain ⟨t, t', first, st, _⟩ := r.split
      cases first.deterministic r'
      exact each _ _ _ _ _ rfl first st
    · obtain ⟨d, rfl⟩ := Nat.exists_eq_add_of_le after
      rw [List.range_add, List.map_append] at r'
      obtain ⟨t, first, rest⟩ := r'.cut
      cases r.deterministic first
      obtain ⟨_, rfl⟩ := run_of_finished finish rest
      exact idle _ _ finish
  · intro all envs1 env envs2 u u' parts r' st
    have length : envs1.length < n := by
      have := congrArg List.length parts
      simp at this
      omega
    have first : envs1 = (List.range envs1.length).map envs := by
      have taken := congrArg (List.take envs1.length) parts
      rw [List.take_left, ← List.map_take, List.take_range, Nat.min_eq_left length.le] at taken
      exact taken.symm
    have label : env = envs envs1.length := by
      have there : ((List.range n).map envs)[envs1.length]? = some env := by rw [parts]; simp
      simpa [length] using there.symm
    rw [first] at r'
    rw [label]
    exact all _ _ r'

/-- Whatever the model, the tools and the clock do, the graph is left after at most
`max_tool_calls + 9` node executions, by its end or by an exception, with at most one re-analysis
and at most one repair; the bound is below the recursion limit, which is therefore never reached. -/
theorem graph_terminates (deps : GraphDeps β) (envs : ℕ → NodeEnv β) :
    deps.limits.maxToolCalls + 9 ≤ recursionLimit deps.limits ∧
    ∃ n e, n ≤ deps.limits.maxToolCalls + 9 ∧
      (investigation deps).Run (start deps) ((List.range n).map envs) e ∧
      (e.position = .ended ∨ ∃ escaped, e.position = .raised escaped) ∧
      e.history.length = n ∧ e.executions .analyze ≤ 2 ∧ e.executions .synthesize ≤ 2 ∧
      ainvoke deps envs (recursionLimit deps.limits) 0 (start deps) = e.invocation := by
  refine ⟨fuel_start_le, ?_⟩
  obtain ⟨n, e, r, finish, same⟩ := ainvoke_run envs (n := 0) paced_start fuel_start_le
  rw [← List.range_eq_range'] at r
  have bound := length_run r
  have entries := length_history r
  have paced : Paced deps.limits e := r.invariant (fun _ _ _ h st => h.step st) paced_start
  obtain ⟨analyses, syntheses⟩ := paced.counted.final finish
  simp only [List.length_map, List.length_range] at bound entries
  refine ⟨n, e, by omega, r, ?_, ?_, analyses, syntheses, same⟩
  · match where_ : e.position with
    | .running node => exact absurd where_ (finish node)
    | .ended => exact .inl rfl
    | .raised escaped => exact .inr ⟨escaped, rfl⟩
  · simpa [start] using entries

/-- Sources whose incident has a severity that no report accepts. -/
def unreportableAnswers : SourceAnswers :=
  { sampleAnswers with
    getIncident := fun _ => .ok
      { sampleIncident with
        severity := "CRITICAL-AND-RISING"
        dump := object [("id", .str "inc_0a1b2c"), ("service", .str "checkout"),
          ("severity", .str "CRITICAL-AND-RISING")] } }

/-- An incident whose severity is longer than a report allows makes the synthesis raise, so that
investigation never reaches the end of the graph. -/
theorem graph_left_by_exception :
    ¬ ∀ (deps : GraphDeps SourceAnswers) (envs : ℕ → NodeEnv SourceAnswers), ∃ n e,
      (investigation deps).Run (start deps) ((List.range n).map envs) e ∧ e.position = .ended := by
  intro all
  let env : NodeEnv SourceAnswers :=
    { sampleEnv sampleReplies with answers := fun _ => unreportableAnswers }
  obtain ⟨n, e, r, ended⟩ := all (sampleDeps {}) fun _ => env
  have raised : ((investigation (sampleDeps {})).exec (start (sampleDeps {}))
      ((List.range 6).map fun _ => env)).map Engine.position =
        some (.raised ⟨"ValidationError"⟩) := by decide +kernel
  obtain ⟨e', run, position⟩ := Option.map_eq_some_iff.mp raised
  have finish : e.position.Finished := by simp [Position.Finished, ended]
  have finish' : e'.position.Finished := by simp [Position.Finished, position]
  obtain ⟨_, rfl⟩ := finished_unique r (Machine.run_iff_exec.mpr run) finish finish'
  rw [ended] at position
  cases position

end SentinelOps.Rca
