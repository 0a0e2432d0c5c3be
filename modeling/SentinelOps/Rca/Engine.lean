import SentinelOps.Rca.Llm
import SentinelOps.Rca.Tools

/-!
# What the graph nodes close over

The registry, the limits and the identity of an investigation are fixed; the meters, the evidence
context and the sequence counter change with every call and every trace entry. `runValidatedCall`
executes one tool call behind the limit check and `validatePlan` is the gate for what the model
plans. `Meters.executed` lists the calls that were executed with their results; no code reads it.
-/

namespace SentinelOps.Rca

/-- A call the gate accepted. -/
structure ValidatedCall where
  toolName : ToolName
  arguments : Content

/-- What the nodes of one investigation share and never change. -/
structure GraphDeps (β : Type) where
  incidentId : String
  investigationId : String
  mode : String
  registry : ToolRegistry β
  provider : String
  model : Option String
  limits : ResourceLimits
  startedAt : Instant

/-- `max_repair_attempts`. -/
def maxRepairAttempts : Nat := 1

/-- What the nodes of one investigation share and change. -/
structure Meters where
  toolContext : ToolContext
  usage : ResourceUsage
  seq : Nat := 0
  executed : List (ValidatedCall × ToolResult) := []

/-- What the outside does while one node is executed: the replies of the model, what the source of
the `n`-th tool call answers, and what the clock reads at the guard of the node, before the `n`-th
tool call, at the trace entry with number `n` and when the report is stamped. -/
structure NodeEnv (β : Type) where
  llm : LlmReplies
  answers : Nat → β
  guardAt : Instant
  callAt : Nat → Instant
  stepAt : Nat → Instant
  stampAt : Instant

section
variable {β : Type} (deps : GraphDeps β) (env : NodeEnv β)

/-- `step`: the next entry of the trace. -/
def step (m : Meters) (kind : StepKind) (phase : InvestigationStatus) (description : String)
    (toolName : Option String := none) (evidenceIds : List String := []) :
    InvestigationStep × Meters :=
  let seq := m.seq + 1
  ({ seq := seq
     kind := kind
     phase := phase
     description := Py.takeFirst 2000 description
     toolName := toolName
     evidenceIds := evidenceIds
     at_ := env.stepAt seq },
    { m with seq := seq, usage := { m.usage with steps := seq } })

/-- `run_validated_call`. -/
def runValidatedCall (m : Meters) (call : ValidatedCall) : Except LimitKind ToolResult × Meters :=
  match checkLimits m.usage deps.limits (env.callAt m.usage.toolCalls) with
  | .error kind => (.error kind, m)
  | .ok () =>
    let (result, ctx) := (deps.registry call.toolName).run call.toolName
      (env.answers m.usage.toolCalls) call.arguments m.toolContext
    (.ok result,
      { m with
        toolContext := ctx
        usage := { m.usage with
          toolCalls := m.usage.toolCalls + 1
          evidenceItems := m.usage.evidenceItems + result.evidence.length }
        executed := m.executed ++ [(call, result)] })

end

/-- What the gate accepted and why it dropped the rest. -/
structure PlanValidation where
  accepted : List ValidatedCall := []
  rejected : List String := []

/-- `_first_error`. -/
def firstError (e : ArgumentError) : String := Py.orElse e.loc "argument" ++ ": " ++ e.msg

section
variable {β : Type} (registry : ToolRegistry β) (maxCalls : Nat)

/-- What the gate does with one planned call, given what it accepted and dropped so far and the keys
of the accepted calls. -/
def admitOne (result : PlanValidation) (seen : List (ToolName × String)) (call : PlannedCall) :
    PlanValidation × List (ToolName × String) :=
  let drop (reason : String) : PlanValidation × List (ToolName × String) :=
    ({ result with rejected := result.rejected ++ [reason] }, seen)
  if result.accepted.length ≥ maxCalls then
    drop (call.tool ++ ": dropped — plan already has the maximum of " ++ toString maxCalls ++
      " tool calls")
  else
    match (StrEnum.parse call.tool : Option ToolName) with
    | none => drop (Py.repr call.tool ++ ": not a registered evidence tool")
    | some name =>
      if (registry name).available = false then
        drop (call.tool ++ ": evidence source is not available in this deployment")
      else
        match (registry name).requestModel call.arguments with
        | .error e => drop (call.tool ++ ": invalid arguments (" ++ firstError e ++ ")")
        | .ok request =>
          let args := (registry name).dump request
          if (name, dumpText args) ∈ seen then drop (call.tool ++ ": duplicate call — skipped")
          else
            ({ result with accepted := result.accepted ++ [⟨name, args⟩] },
              seen ++ [(name, dumpText args)])

/-- The gate over a list of calls. -/
def admitAll (result : PlanValidation) (seen : List (ToolName × String)) :
    List PlannedCall → PlanValidation
  | [] => result
  | call :: calls =>
    admitAll (admitOne registry maxCalls result seen call).1
      (admitOne registry maxCalls result seen call).2 calls

/-- `validate_plan`. -/
def validatePlan (calls : List PlannedCall) : PlanValidation :=
  admitAll registry maxCalls {} [] calls

variable {registry maxCalls}

/-- One planned call adds at most one accepted call, and only below the maximum. -/
lemma length_admitOne {result seen call} (h : result.accepted.length ≤ maxCalls) :
    (admitOne registry maxCalls result seen call).1.accepted.length ≤ maxCalls := by
  unfold admitOne
  dsimp only
  split
  · exact h
  · rename_i below
    split
    · exact h
    · split
      · exact h
      · split
        · exact h
        · split
          · exact h
          · simp
            omega

/-- The gate accepts no more calls than it is told to. -/
lemma length_admitAll {result seen calls} (h : result.accepted.length ≤ maxCalls) :
    (admitAll registry maxCalls result seen calls).accepted.length ≤ maxCalls := by
  induction calls generalizing result seen with
  | nil => exact h
  | cons call calls ih => exact ih (length_admitOne h)

/-- The accepted plan fits into the remaining budget. -/
theorem length_validatePlan {calls} :
    (validatePlan registry maxCalls calls).accepted.length ≤ maxCalls :=
  length_admitAll (Nat.zero_le _)

end

section
variable {β : Type} {deps : GraphDeps β} {env : NodeEnv β} {m m' : Meters}

@[simp] lemma step_executed {kind phase description toolName ids} :
    (step env m kind phase description toolName ids).2.executed = m.executed := rfl

@[simp] lemma step_toolCalls {kind phase description toolName ids} :
    (step env m kind phase description toolName ids).2.usage.toolCalls = m.usage.toolCalls := rfl

@[simp] lemma step_evidenceItems {kind phase description toolName ids} :
    (step env m kind phase description toolName ids).2.usage.evidenceItems =
      m.usage.evidenceItems := rfl

@[simp] lemma step_toolContext {kind phase description toolName ids} :
    (step env m kind phase description toolName ids).2.toolContext = m.toolContext := rfl

@[simp] lemma step_seq {kind phase description toolName ids} :
    (step env m kind phase description toolName ids).2.seq = m.seq + 1 := rfl

@[simp] lemma step_usageSteps {kind phase description toolName ids} :
    (step env m kind phase description toolName ids).2.usage.steps = m.seq + 1 := rfl

@[simp] lemma step_fst_seq {kind phase description toolName ids} :
    (step env m kind phase description toolName ids).1.seq = m.seq + 1 := rfl

@[simp] lemma step_fst_kind {kind phase description toolName ids} :
    (step env m kind phase description toolName ids).1.kind = kind := rfl

@[simp] lemma step_fst_evidenceIds {kind phase description toolName ids} :
    (step env m kind phase description toolName ids).1.evidenceIds = ids := rfl

@[simp] lemma step_fst_toolName {kind phase description toolName ids} :
    (step env m kind phase description toolName ids).1.toolName = toolName := rfl

/-- A call is executed, which counts it and what it returned, or a limit stops it before. -/
lemma runValidatedCall_cases {call r} (e : runValidatedCall deps env m call = (r, m')) :
    (∃ kind, checkLimits m.usage deps.limits (env.callAt m.usage.toolCalls) = .error kind ∧
      r = .error kind ∧ m' = m) ∨
    (∃ result ctx,
      (deps.registry call.toolName).run call.toolName (env.answers m.usage.toolCalls) call.arguments
        m.toolContext = (result, ctx) ∧
      r = .ok result ∧
      m' = { m with
        toolContext := ctx
        usage := { m.usage with
          toolCalls := m.usage.toolCalls + 1
          evidenceItems := m.usage.evidenceItems + result.evidence.length }
        executed := m.executed ++ [(call, result)] }) := by
  unfold runValidatedCall at e
  split at e
  · rename_i kind exceeded
    cases e
    exact .inl ⟨kind, exceeded, rfl, rfl⟩
  · cases e
    exact .inr ⟨_, _, rfl, rfl, rfl⟩

end

end SentinelOps.Rca
