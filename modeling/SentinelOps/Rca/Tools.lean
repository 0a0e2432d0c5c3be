import SentinelOps.Rca.Schemas

/-!
# Evidence tools

The context that allocates evidence ids, the result of a tool call, the wrapper `EvidenceTool.run`
that keeps every exception of a tool from its caller, and the registry. What a tool's backing
source answers during a call is a value of type `β`.
-/

namespace SentinelOps.Rca

/-- `INCIDENT_ID_RE`. -/
def isIncidentId (s : String) : Bool :=
  let digits := s.toList.drop 4
  decide (s.toList.take 4 = "inc_".toList) && decide (6 ≤ digits.length ∧ digits.length ≤ 32) &&
    digits.all fun c => c.isDigit || decide ('a' ≤ c ∧ c ≤ 'f')

/-- The id allocator and the evidence budget of one investigation. -/
structure ToolContext where
  maxEvidenceItems : Nat
  issued : Nat := 0
  deriving DecidableEq

/-- `remaining_evidence`. -/
def ToolContext.remainingEvidence (ctx : ToolContext) : Nat := ctx.maxEvidenceItems - ctx.issued

/-- `next_evidence_id`. -/
def ToolContext.nextEvidenceId (ctx : ToolContext) : String × ToolContext :=
  ("ev_" ++ Py.padZeros 3 (ctx.issued + 1), { ctx with issued := ctx.issued + 1 })

/-- How a tool call went. -/
inductive ToolResultStatus where
  | ok
  | invalidInput
  | unsupportedService
  | sourceUnavailable
  | notFound
  | upstreamTimeout
  | upstreamUnavailable
  | malformedResponse
  | limitExceeded
  deriving DecidableEq

instance : StrEnum ToolResultStatus where
  members := [.ok, .invalidInput, .unsupportedService, .sourceUnavailable, .notFound,
    .upstreamTimeout, .upstreamUnavailable, .malformedResponse, .limitExceeded]
  str
    | .ok => "OK"
    | .invalidInput => "INVALID_INPUT"
    | .unsupportedService => "UNSUPPORTED_SERVICE"
    | .sourceUnavailable => "SOURCE_UNAVAILABLE"
    | .notFound => "NOT_FOUND"
    | .upstreamTimeout => "UPSTREAM_TIMEOUT"
    | .upstreamUnavailable => "UPSTREAM_UNAVAILABLE"
    | .malformedResponse => "MALFORMED_RESPONSE"
    | .limitExceeded => "LIMIT_EXCEEDED"
  complete a := by cases a <;> decide
  distinct := by decide

/-- A sanitized tool error. -/
structure ToolError where
  code : ToolResultStatus
  message : String
  retriable : Bool := false
  deriving DecidableEq

/-- What every tool call returns. -/
structure ToolResult where
  toolName : ToolName
  status : ToolResultStatus
  evidence : List Evidence := []
  error : Option ToolError := none
  summary : String := ""
  query : Content := .empty

/-- `result.ok`. -/
def ToolResult.ok (r : ToolResult) : Bool := decide (r.status = .ok)

/-- `ToolResult.failure`. -/
def ToolResult.failure (toolName : ToolName) (code : ToolResultStatus) (message : String)
    (query : Content) : ToolResult where
  toolName := toolName
  status := code
  error := some
    { code := code
      message := message
      retriable := decide (code = .upstreamTimeout ∨ code = .upstreamUnavailable) }
  summary := str toolName ++ ": " ++ str code
  query := query

/-- What leaves `_run` instead of a result. -/
inductive ToolRaised where
  | toolExecutionError (code : ToolResultStatus) (message : String)
  | other

/-- The first error of a `ValidationError`. -/
structure ArgumentError where
  loc : String
  msg : String

/-- An evidence tool: whether its source is deployed, its request model with the JSON dump of a
request, and its `_run`, which works on the context and on what the source answers. -/
structure EvidenceTool (β : Type) where
  Request : Type
  description : String
  available : Bool
  requestModel : Content → Except ArgumentError Request
  dump : Request → Content
  run_ : β → Request → ToolContext → Except ToolRaised ToolResult × ToolContext

/-- The text of a dumped request, which tells requests apart. -/
def dumpText (content : Content) : String := (Json.dict content.entries).repr

/-- `EvidenceTool.run`: no exception of a tool reaches its caller. -/
def EvidenceTool.run {β} (tool : EvidenceTool β) (name : ToolName) (answers : β)
    (rawRequest : Content) (ctx : ToolContext) : ToolResult × ToolContext :=
  if tool.available = false then
    (.failure name .sourceUnavailable (str name ++ " is not available in this deployment " ++
      "(the backing data source is not deployed)") rawRequest, ctx)
  else
    match tool.requestModel rawRequest with
    | .error e =>
      (.failure name .invalidInput
        (Py.takeFirst 500 ("invalid input at " ++ Py.repr e.loc ++ ": " ++ e.msg)) rawRequest, ctx)
    | .ok request =>
      match tool.run_ answers request ctx with
      | (.ok result, ctx) => (result, ctx)
      | (.error (.toolExecutionError code message), ctx) =>
        (.failure name code message (tool.dump request), ctx)
      | (.error .other, ctx) =>
        ({ toolName := name
           status := .upstreamUnavailable
           error := some
            { code := .upstreamUnavailable
              message := "the evidence tool failed unexpectedly"
              retriable := true }
           summary := str name ++ ": unexpected failure"
           query := tool.dump request }, ctx)

/-- The closed registry: a tool for every name. -/
abbrev ToolRegistry (β : Type) := ToolName → EvidenceTool β

/-- `registry.unavailable()`, in the stable order of the names. -/
def ToolRegistry.unavailable {β} (registry : ToolRegistry β) : List ToolName :=
  (StrEnum.members : List ToolName).filter fun n => !(registry n).available

/-- `unavailable_sources`. -/
def ToolRegistry.unavailableSources {β} (registry : ToolRegistry β) : List String :=
  registry.unavailable.map fun n => str n ++ ": " ++ (registry n).description

end SentinelOps.Rca
