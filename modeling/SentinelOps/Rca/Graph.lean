import SentinelOps.Lib.Transition
import SentinelOps.Rca.Nodes

/-!
# The graph and its runs

`investigation` is the graph as a machine: one step executes the node that the router chose. Its
labels carry everything the outside does meanwhile, so a run of the machine is an investigation
under some behaviour of the model, the tools and the clock. `ainvoke` runs the machine against a
stream of labels within a recursion limit and `runToCompletion` is what is handed to the repository
at the end.
-/

namespace SentinelOps.Rca

/-- Where a run of the graph stands. -/
inductive Position where
  | running (node : Node)
  | ended
  | raised (e : Escaped)
  deriving DecidableEq

/-- The nodes were left, by the end of the graph or by an exception. -/
def Position.Finished (p : Position) : Prop := ∀ node, p ≠ .running node

/-- An investigation under way, with the nodes executed so far and the status after each. -/
structure Engine where
  position : Position := .running .initialise
  state : InvestigationState := {}
  meters : Meters
  history : List (Node × InvestigationStatus) := []

/-- The statuses an investigation passed through, PENDING first. -/
def Engine.statuses (e : Engine) : List InvestigationStatus := .pending :: e.history.map Prod.snd

/-- How often a node was executed. -/
def Engine.executions (e : Engine) (node : Node) : Nat := (e.history.map Prod.fst).count node

/-- `_route`: the end as soon as the status is terminal, else the declared successor. -/
def route (s : InvestigationState) : Position :=
  if s.status.isTerminal = true then .ended else s.next.elim .ended .running

/-- `recursion_limit`. -/
def recursionLimit (limits : ResourceLimits) : Nat :=
  3 * (limits.maxToolCalls + limits.maxSteps) + 25

section
variable {β : Type} (deps : GraphDeps β)

/-- The body of a node. -/
def runNode (env : NodeEnv β) (m : Meters) (state : InvestigationState) : Node → NodeResult
  | .initialise => initialise deps env m
  | .plan => plan deps env m state
  | .collect => collect deps env m state
  | .analyze => analyze deps env m state
  | .verify => verify deps env m state
  | .synthesize => synthesize deps env m state
  | .validate => validate deps env m state

/-- The engine after a node yielded an update or an exception. -/
def Engine.after (e : Engine) (node : Node) : NodeResult → Engine
  | (.ok update, m) =>
    let state := e.state.merge update
    { position := route state
      state := state
      meters := m
      history := e.history ++ [(node, state.status)] }
  | (.error escaped, m) =>
    { position := .raised escaped
      state := e.state
      meters := m
      history := e.history ++ [(node, e.state.status)] }

/-- The meters of a new investigation. -/
def newMeters : Meters where
  toolContext := { maxEvidenceItems := deps.limits.maxEvidenceItems }
  usage := { startedAt := deps.startedAt }

/-- A new investigation. -/
def start : Engine := { meters := newMeters deps }

/-- The graph as a machine. -/
def investigation : Machine Engine (NodeEnv β) where
  init e := e = start deps
  step e env :=
    match e.position with
    | .running node => some (e.after node (runNode deps env e.meters e.state node))
    | .ended | .raised _ => none

/-- What `ainvoke` does. -/
inductive Invocation where
  | returned (state : InvestigationState)
  | raised (e : Escaped)
  | recursionError

/-- `graph.ainvoke`, with the number of node executions that are left. -/
def ainvoke (envs : Nat → NodeEnv β) : Nat → Nat → Engine → Invocation
  | left, n, e =>
    match e.position with
    | .ended => .returned e.state
    | .raised escaped => .raised escaped
    | .running node =>
      match left with
      | 0 => .recursionError
      | left + 1 =>
        ainvoke envs left (n + 1) (e.after node (runNode deps (envs n) e.meters e.state node))

/-- What `ainvoke` does with a run that stands at `e` when no node execution is left. -/
def Engine.invocation (e : Engine) : Invocation :=
  match e.position with
  | .ended => .returned e.state
  | .raised escaped => .raised escaped
  | .running _ => .recursionError

/-- What `complete_investigation` is given. -/
structure Completion where
  status : InvestigationStatus
  terminationReason : String
  overallConfidence : Confidence
  model : Option String
  steps : List InvestigationStep
  evidence : List Evidence
  report : Option RCAReport

/-- The result of the graph as it is handed to the repository. -/
def completion (result : Invocation) : Completion :=
  let outcome : InvestigationStatus × String × Option RCAReport × List InvestigationStep ×
      List Evidence :=
    match result with
    | .returned s => (s.status, Py.orElse (s.terminalReason.getD "") "unknown", s.rca, s.steps,
        s.evidence)
    | .recursionError => (.timedOut, "graph recursion limit reached", none, [], [])
    | .raised e => (.failed, "engine error: " ++ e.name, none, [], [])
  let (status, reason, report, steps, evidence) := outcome
  let (status, reason) : InvestigationStatus × String :=
    if status.isTerminal then (status, reason)
    else (.failed, "non-terminal status " ++ str status)
  { status := status
    terminationReason := Py.takeFirst 200 reason
    overallConfidence := report.elim .unknown RCAReport.overallConfidence
    model := deps.model
    steps := steps
    evidence := evidence
    report := report }

/-- `run_to_completion`, up to the call of the repository. -/
def runToCompletion (envs : Nat → NodeEnv β) : Completion :=
  completion deps (ainvoke deps envs (recursionLimit deps.limits) 0 (start deps))

end

section
variable {β : Type} {deps : GraphDeps β}

/-- A step of the graph executes the node it stands at. -/
lemma investigation_step {e env e'} (st : (investigation deps).step e env = some e') :
    ∃ node, e.position = .running node ∧
      e' = e.after node (runNode deps env e.meters e.state node) := by
  simp only [investigation] at st
  split at st
  · rename_i node standing
    exact ⟨node, standing, (Option.some.inj st).symm⟩
  · cases st
  · cases st

/-- At a node, the graph always takes a step. -/
lemma investigation_step_of (deps : GraphDeps β) (env : NodeEnv β) {e : Engine} {node}
    (standing : e.position = .running node) :
    (investigation deps).step e env =
      some (e.after node (runNode deps env e.meters e.state node)) := by
  simp only [investigation, standing]

@[simp] lemma after_ok {e : Engine} {node u m} :
    e.after node (.ok u, m) =
      { position := route (e.state.merge u)
        state := e.state.merge u
        meters := m
        history := e.history ++ [(node, (e.state.merge u).status)] } := rfl

@[simp] lemma after_error {e : Engine} {node x m} :
    e.after node (.error x, m) =
      { position := .raised x
        state := e.state
        meters := m
        history := e.history ++ [(node, e.state.status)] } := rfl

/-- The router follows the declared successor unless the status is terminal. -/
lemma route_merge {s : InvestigationState} {u : Update} :
    route (s.merge u) = if (u.status.getD s.status).isTerminal = true then .ended
      else (u.next.getD s.next).elim .ended .running := rfl

/-- A declared successor is followed, or the graph ends. -/
lemma route_cases {s : InvestigationState} {u : Update} {node} (next : u.next = some (some node)) :
    route (s.merge u) = .ended ∨ route (s.merge u) = .running node := by
  rw [route_merge, next]
  split
  · exact .inl rfl
  · exact .inr rfl

/-- A terminal update ends the graph. -/
@[simp] lemma route_terminal {s : InvestigationState} {status reason extra} :
    route (s.merge (terminal status reason extra)) = .ended := by
  rw [route_merge]
  split <;> rfl

end

end SentinelOps.Rca
