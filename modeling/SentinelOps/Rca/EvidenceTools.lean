import SentinelOps.Rca.Tools

/-!
# The evidence tools of the deployment

The six tools with a data source and the four without. `SourceAnswers` is what the incident API and
the instrumented services answer during one call; the registry is parameterised by the coercion of a
JSON value to an integer, which belongs to the validation library. A tool that returns a list looks
at the evidence budget and cuts the list; a tool that returns one item does not look.
-/

namespace SentinelOps.Rca

/-- The incident as the incident API returns it: the fields the tool quotes and the whole dump. -/
structure IncidentPayload where
  id : String
  service : String
  environment : String
  status : String
  severity : String
  anomalyCount : Int
  startedAt : Instant
  dump : Content

/-- One anomaly window of the incident. -/
structure AnomalyEvidenceItem where
  eventId : String
  detector : String
  anomalyScore : PyFloat
  threshold : PyFloat
  windowStart : Instant
  abnormalSignals : List String
  dump : Content

/-- Another incident of the service. -/
structure RelatedIncidentItem where
  id : String
  service : String
  status : String
  severity : String
  title : String
  startedAt : Instant
  dump : Content

/-- A scrape of a service: the requested names that are present and the whole dump. -/
structure ServiceMetricsPayload where
  present : List String
  scrapedAt : Instant
  dump : Content

/-- A health check of a service. -/
structure ServiceHealthPayload where
  health : String
  readiness : String
  checkedAt : Instant
  dump : Content

/-- What the sources of the tools answer during one call, and what the clock of the context reads
for the `n`-th evidence id. -/
structure SourceAnswers where
  getIncident : String → Except ToolRaised IncidentPayload
  getIncidentHistory : String → Except ToolRaised (List Content)
  getIncidentEvidence : String → Except ToolRaised (List AnomalyEvidenceItem)
  listIncidents : String → Int → Option String → Int → Except ToolRaised (List RelatedIncidentItem)
  scrape : String → List String → Except ToolRaised ServiceMetricsPayload
  check : String → Except ToolRaised ServiceHealthPayload
  collectedAt : Nat → Instant

/-- `build_evidence`: the id is allocated before the item is validated. -/
def buildEvidence (answers : SourceAnswers) (ctx : ToolContext) (sourceType : EvidenceSourceType)
    (toolName : ToolName) (sourceReference summary : String) (content : Content)
    (service : Option String) (observedAt : Option Instant) :
    Except ToolRaised Evidence × ToolContext :=
  let (id, ctx) := ctx.nextEvidenceId
  if FitsOpt 128 service then
    (.ok
      { id := id
        sourceType := sourceType
        sourceReference := Py.takeFirst 500 sourceReference
        toolName := str toolName
        service := service
        summary := Py.takeFirst 2000 summary
        content := content
        observedAt := observedAt
        collectedAt := answers.collectedAt ctx.issued }, ctx)
  else (.error .other, ctx)

/-- Build the evidence for a list of items, stopping at the first one that is refused. -/
def buildAll {ι : Type} (build : ToolContext → ι → Except ToolRaised Evidence × ToolContext)
    (ctx : ToolContext) : List ι → Except ToolRaised (List Evidence) × ToolContext
  | [] => (.ok [], ctx)
  | item :: items =>
    match build ctx item with
    | (.error e, ctx) => (.error e, ctx)
    | (.ok ev, ctx) =>
      match buildAll build ctx items with
      | (.error e, ctx) => (.error e, ctx)
      | (.ok evs, ctx) => (.ok (ev :: evs), ctx)

/-- A required string field. -/
def strField (content : Content) (loc : String) (ok : String → Option String) :
    Except ArgumentError String :=
  match content.get? loc with
  | none => .error ⟨loc, "Field required"⟩
  | some (.str s) => (ok s).elim (.ok s) fun msg => .error ⟨loc, msg⟩
  | some _ => .error ⟨loc, "Input should be a valid string"⟩

/-- `Field(min_length=1, max_length=128)`. -/
def serviceOk (s : String) : Option String :=
  if s = "" then some "String should have at least 1 character"
  else if Fits 128 s then none
  else some "String should have at most 128 characters"

/-- `Field(pattern=INCIDENT_ID_RE)`. -/
def incidentIdOk (s : String) : Option String :=
  if isIncidentId s then none
  else some "String should match pattern '^inc_[0-9a-f]\x7b6,32\x7d$'"

/-- An integer field with a default and bounds. -/
def intField (coerce : Json → Except String Int) (content : Content) (loc : String)
    (default lo hi : Int) : Except ArgumentError Int :=
  match content.get? loc with
  | none => .ok default
  | some v =>
    match coerce v with
    | .error msg => .error ⟨loc, msg⟩
    | .ok n =>
      if n < lo then .error ⟨loc, "Input should be greater than or equal to " ++ toString lo⟩
      else if hi < n then .error ⟨loc, "Input should be less than or equal to " ++ toString hi⟩
      else .ok n

/-- `extra="forbid"`. -/
def noExtra (content : Content) (fields : List String) : Except ArgumentError Unit :=
  match content.entries.find? fun e => decide (e.1 ∉ fields) with
  | none => .ok ()
  | some e => .error ⟨e.1, "Extra inputs are not permitted"⟩

/-- A JSON object with the given fields. -/
def object (fields : List (String × Json)) : Content :=
  fields.foldl (fun d e => d.set e.1 e.2) .empty

/-- `GetIncidentRequest` and `GetIncidentTimelineRequest`. -/
def incidentRequest (content : Content) : Except ArgumentError String := do
  let incidentId ← strField content "incident_id" incidentIdOk
  noExtra content ["incident_id"]
  pure incidentId

/-- `GetIncidentTool._run`. -/
def runGetIncident (answers : SourceAnswers) (incidentId : String) (ctx : ToolContext) :
    Except ToolRaised ToolResult × ToolContext :=
  match answers.getIncident incidentId with
  | .error e => (.error e, ctx)
  | .ok incident =>
    match buildEvidence answers ctx .incident .getIncident
        ("incident-api:GET /incidents/" ++ incident.id)
        ("Incident " ++ incident.id ++ " on " ++ incident.service ++ " (" ++ incident.environment ++
          "): " ++ incident.severity ++ " " ++ incident.status ++ ", " ++
          toString incident.anomalyCount ++ " anomaly window(s)")
        incident.dump (some incident.service) (some incident.startedAt) with
    | (.error e, ctx) => (.error e, ctx)
    | (.ok ev, ctx) =>
      (.ok { toolName := .getIncident, status := .ok, evidence := [ev],
             summary := "loaded incident " ++ incident.id,
             query := object [("incident_id", .str incidentId)] }, ctx)

/-- `GetIncidentTimelineTool._run`. -/
def runGetIncidentTimeline (answers : SourceAnswers) (incidentId : String) (ctx : ToolContext) :
    Except ToolRaised ToolResult × ToolContext :=
  match answers.getIncidentHistory incidentId with
  | .error e => (.error e, ctx)
  | .ok history =>
    match buildEvidence answers ctx .incident .getIncidentTimeline
        ("incident-api:GET /incidents/" ++ incidentId ++ "/history")
        (toString history.length ++ " lifecycle transition(s) for incident " ++ incidentId)
        (object [("incident_id", .str incidentId),
          ("transitions", .list (history.map fun h => .dict h.entries))]) none none with
    | (.error e, ctx) => (.error e, ctx)
    | (.ok ev, ctx) =>
      (.ok { toolName := .getIncidentTimeline, status := .ok, evidence := [ev],
             summary := "loaded " ++ toString history.length ++ " transition(s)",
             query := object [("incident_id", .str incidentId)] }, ctx)

/-- `GetAnomalyEvidenceRequest`. -/
structure AnomalyRequest where
  incidentId : String
  limit : Int

/-- The JSON dump of the request. -/
def AnomalyRequest.dump (r : AnomalyRequest) : Content :=
  object [("incident_id", .str r.incidentId), ("limit", .int r.limit)]

/-- `GetAnomalyEvidenceTool._run`. -/
def runGetAnomalyEvidence (answers : SourceAnswers) (request : AnomalyRequest) (ctx : ToolContext) :
    Except ToolRaised ToolResult × ToolContext :=
  let budget := ctx.remainingEvidence
  if budget = 0 then
    (.error (.toolExecutionError .limitExceeded
      "the investigation evidence budget is exhausted"), ctx)
  else
    match answers.getIncidentEvidence request.incidentId with
    | .error e => (.error e, ctx)
    | .ok items =>
      let take := min (min request.limit.toNat budget) items.length
      let build (ctx : ToolContext) (item : AnomalyEvidenceItem) :=
        buildEvidence answers ctx .anomaly .getAnomalyEvidence
          ("incident-api:GET /incidents/" ++ request.incidentId ++ "/evidence#" ++ item.eventId)
          ("anomaly " ++ item.detector ++ " score=" ++ item.anomalyScore.fixed 3 ++
            " (threshold " ++ item.threshold.fixed 3 ++ "); abnormal: " ++
            Py.orElse (Py.join ", " item.abnormalSignals) "none")
          item.dump none (some item.windowStart)
      match buildAll build ctx (items.take take) with
      | (.error e, ctx) => (.error e, ctx)
      | (.ok evidence, ctx) =>
        (.ok { toolName := .getAnomalyEvidence, status := .ok, evidence := evidence,
               summary := "loaded " ++ toString evidence.length ++ " of " ++
                 toString items.length ++ " anomaly window(s)",
               query := request.dump }, ctx)

/-- `GetRelatedIncidentsRequest`. -/
structure RelatedRequest where
  service : String
  lookbackHours : Int
  status : Option String
  limit : Int

/-- The JSON dump of the request. -/
def RelatedRequest.dump (r : RelatedRequest) : Content :=
  object [("service", .str r.service), ("lookback_hours", .int r.lookbackHours),
    ("status", r.status.elim .null .str), ("limit", .int r.limit)]

/-- The `status` field of `GetRelatedIncidentsRequest`. -/
def statusField (content : Content) : Except ArgumentError (Option String) :=
  match content.get? "status" with
  | none | some .null => .ok none
  | some (.str s) =>
    if s ∈ ["OPEN", "ACKNOWLEDGED", "INVESTIGATING", "MITIGATING", "RESOLVED"] then .ok (some s)
    else .error ⟨"status", "Input should be 'OPEN', 'ACKNOWLEDGED', 'INVESTIGATING', " ++
      "'MITIGATING' or 'RESOLVED'"⟩
  | some _ => .error ⟨"status", "Input should be 'OPEN', 'ACKNOWLEDGED', 'INVESTIGATING', " ++
      "'MITIGATING' or 'RESOLVED'"⟩

/-- `GetRelatedIncidentsTool._run`. -/
def runGetRelatedIncidents (answers : SourceAnswers) (request : RelatedRequest)
    (ctx : ToolContext) : Except ToolRaised ToolResult × ToolContext :=
  let budget := ctx.remainingEvidence
  if budget = 0 then
    (.error (.toolExecutionError .limitExceeded
      "the investigation evidence budget is exhausted"), ctx)
  else
    match answers.listIncidents request.service request.lookbackHours request.status
        request.limit with
    | .error e => (.error e, ctx)
    | .ok items =>
      let take := min (min request.limit.toNat budget) items.length
      let build (ctx : ToolContext) (item : RelatedIncidentItem) :=
        buildEvidence answers ctx .relatedIncident .getRelatedIncidents
          ("incident-api:GET /incidents?service=" ++ request.service ++ "#" ++ item.id)
          ("related incident " ++ item.id ++ ": " ++ item.severity ++ " " ++ item.status ++ " - " ++
            item.title)
          item.dump (some item.service) (some item.startedAt)
      match buildAll build ctx (items.take take) with
      | (.error e, ctx) => (.error e, ctx)
      | (.ok evidence, ctx) =>
        (.ok { toolName := .getRelatedIncidents, status := .ok, evidence := evidence,
               summary := "found " ++ toString items.length ++ " related incident(s) for " ++
                 request.service,
               query := request.dump }, ctx)

/-- `GetServiceMetricsRequest`. -/
structure MetricsRequest where
  service : String
  metricNames : List String

/-- The JSON dump of the request. -/
def MetricsRequest.dump (r : MetricsRequest) : Content :=
  object [("service", .str r.service), ("metric_names", .list (r.metricNames.map .str))]

/-- `_METRIC_NAME_RE`, whose end anchor lets one newline pass, and the length bound. -/
def metricNameOk (name : String) : Bool :=
  let start (c : Char) : Bool := c.isAlpha || c == '_' || c == ':'
  let text := if name.toList.getLast? = some '\n' then name.toList.dropLast else name.toList
  decide (Fits 120 name) &&
    match text with
    | [] => false
    | c :: cs => start c && cs.all fun d => start d || d.isDigit

/-- The strings of a JSON list, or the position of the first element that is none. -/
def strings (i : Nat) : List Json → Except Nat (List String)
  | [] => .ok []
  | .str s :: vs => (strings (i + 1) vs).map (s :: ·)
  | _ :: _ => .error i

/-- The `metric_names` field of `GetServiceMetricsRequest`. -/
def metricNamesField (content : Content) : Except ArgumentError (List String) :=
  match content.get? "metric_names" with
  | none => .error ⟨"metric_names", "Field required"⟩
  | some (.list vs) =>
    match strings 0 vs with
    | .error i => .error ⟨"metric_names." ++ toString i, "Input should be a valid string"⟩
    | .ok names =>
      if names = [] then
        .error ⟨"metric_names", "List should have at least 1 item after validation, not 0"⟩
      else if 15 < names.length then
        .error ⟨"metric_names", "List should have at most 15 items after validation, not " ++
          toString names.length⟩
      else
        match names.find? fun n => !metricNameOk n with
        | some n => .error ⟨"metric_names", "Value error, invalid metric name: " ++ Py.repr n⟩
        | none => .ok names
  | some _ => .error ⟨"metric_names", "Input should be a valid list"⟩

/-- `GetServiceMetricsTool._run`. -/
def runGetServiceMetrics (answers : SourceAnswers) (request : MetricsRequest) (ctx : ToolContext) :
    Except ToolRaised ToolResult × ToolContext :=
  match answers.scrape request.service request.metricNames with
  | .error e => (.error e, ctx)
  | .ok payload =>
    match buildEvidence answers ctx .metric .getServiceMetrics
        ("metrics:" ++ request.service ++ "/metrics")
        (request.service ++ " point-in-time metrics; present: " ++
          Py.orElse (Py.join ", " payload.present) "none of the requested names")
        payload.dump (some request.service) (some payload.scrapedAt) with
    | (.error e, ctx) => (.error e, ctx)
    | (.ok ev, ctx) =>
      (.ok { toolName := .getServiceMetrics, status := .ok, evidence := [ev],
             summary := "scraped " ++ toString payload.present.length ++ "/" ++
               toString request.metricNames.length ++ " requested metric(s)",
             query := request.dump }, ctx)

/-- `GetServiceHealthTool._run`. -/
def runGetServiceHealth (answers : SourceAnswers) (service : String) (ctx : ToolContext) :
    Except ToolRaised ToolResult × ToolContext :=
  match answers.check service with
  | .error e => (.error e, ctx)
  | .ok payload =>
    match buildEvidence answers ctx .serviceHealth .getServiceHealth
        ("health:" ++ service ++ "/health+/ready")
        (service ++ ": health=" ++ payload.health ++ ", readiness=" ++ payload.readiness)
        payload.dump (some service) (some payload.checkedAt) with
    | (.error e, ctx) => (.error e, ctx)
    | (.ok ev, ctx) =>
      (.ok { toolName := .getServiceHealth, status := .ok, evidence := [ev],
             summary := "health=" ++ payload.health ++ " readiness=" ++ payload.readiness,
             query := object [("service", .str service)] }, ctx)

/-- `_UnavailableTool`: its requests are refused before they are validated. -/
def unavailableTool (description : String) : EvidenceTool SourceAnswers where
  Request := Content
  description := description
  available := false
  requestModel := .ok
  dump := id
  run_ _ _ ctx := (.error .other, ctx)

/-- `build_registry`. -/
def buildRegistry (coerce : Json → Except String Int) : ToolRegistry SourceAnswers
  | .getIncident =>
    { Request := String
      description := "Fetch the current state of one incident (status, severity, affected " ++
        "service, aggregated anomaly signals, lifecycle timestamps)."
      available := true
      requestModel := incidentRequest
      dump := fun i => object [("incident_id", .str i)]
      run_ := runGetIncident }
  | .getIncidentTimeline =>
    { Request := String
      description := "Fetch the ordered lifecycle-transition history of one incident " ++
        "(who/what moved it between states, and when)."
      available := true
      requestModel := incidentRequest
      dump := fun i => object [("incident_id", .str i)]
      run_ := runGetIncidentTimeline }
  | .getAnomalyEvidence =>
    { Request := AnomalyRequest
      description := "Fetch the anomaly-detection evidence that formed the incident: per " ++
        "telemetry window, the Phase 2 model's score, threshold, the operational " ++
        "signals it saw, and which signals were abnormal. Does not run detection."
      available := true
      requestModel := fun content => do
        let incidentId ← strField content "incident_id" incidentIdOk
        let limit ← intField coerce content "limit" 20 1 50
        noExtra content ["incident_id", "limit"]
        pure ⟨incidentId, limit⟩
      dump := AnomalyRequest.dump
      run_ := runGetAnomalyEvidence }
  | .getRelatedIncidents =>
    { Request := RelatedRequest
      description := "List other incidents for the same service within a bounded recent " ++
        "window, for correlation (has this service been unstable, or is this isolated?)."
      available := true
      requestModel := fun content => do
        let service ← strField content "service" serviceOk
        let lookbackHours ← intField coerce content "lookback_hours" 168 1 720
        let status ← statusField content
        let limit ← intField coerce content "limit" 10 1 50
        noExtra content ["service", "lookback_hours", "status", "limit"]
        pure ⟨service, lookbackHours, status, limit⟩
      dump := RelatedRequest.dump
      run_ := runGetRelatedIncidents }
  | .getServiceMetrics =>
    { Request := MetricsRequest
      description := "Read the current value(s) of named Prometheus metric families from an " ++
        "allow-listed instrumented service's /metrics endpoint. Point-in-time " ++
        "only; no historical range is queryable."
      available := true
      requestModel := fun content => do
        let service ← strField content "service" serviceOk
        let metricNames ← metricNamesField content
        noExtra content ["service", "metric_names"]
        pure ⟨service, metricNames⟩
      dump := MetricsRequest.dump
      run_ := runGetServiceMetrics }
  | .getServiceHealth =>
    { Request := String
      description := "Check the current /health and /ready status of an allow-listed " ++
        "instrumented service."
      available := true
      requestModel := fun content => do
        let service ← strField content "service" serviceOk
        noExtra content ["service"]
        pure service
      dump := fun s => object [("service", .str s)]
      run_ := runGetServiceHealth }
  | .getRecentLogs =>
    unavailableTool ("Recent application log lines for a service. UNAVAILABLE: this " ++
      "deployment has no log-aggregation backend (Loki) yet.")
  | .getTraces =>
    unavailableTool ("Distributed traces for a request or operation. UNAVAILABLE: this " ++
      "deployment has no trace backend (Tempo) yet.")
  | .getRecentDeployments =>
    unavailableTool ("Recent deployments / configuration changes for a service. UNAVAILABLE: " ++
      "this deployment has no deployment-metadata source yet.")
  | .getServiceDependencies =>
    unavailableTool ("Upstream / downstream dependencies of a service. UNAVAILABLE: this " ++
      "deployment has no service dependency graph yet.")

/-- What a `_run` comes to: it fails before it builds any evidence, or it builds one item, or no more
items than the budget has left, and returns what it has built. -/
inductive Collects (answers : SourceAnswers) (ctx : ToolContext) :
    Except ToolRaised ToolResult × ToolContext → Prop where
  | nothing {e} : Collects answers ctx (.error e, ctx)
  | one {sourceType ref summary content service observedAt built ctx' r} {toolName : ToolName} :
    buildEvidence answers ctx sourceType toolName ref summary content service observedAt =
      (built, ctx') →
    (∀ result, r = .ok result → ∃ ev, built = .ok ev ∧ result.evidence = [ev]) →
    Collects answers ctx (r, ctx')
  | several {ι : Type} {build : ToolContext → ι → Except ToolRaised Evidence × ToolContext}
    {items : List ι} {built ctx' r} :
    (∀ ctx item, ∃ sourceType, ∃ toolName : ToolName, ∃ ref summary content service observedAt,
      build ctx item =
        buildEvidence answers ctx sourceType toolName ref summary content service observedAt) →
    items.length ≤ ctx.remainingEvidence →
    buildAll build ctx items = (built, ctx') →
    (∀ result, r = .ok result → built = .ok result.evidence) →
    Collects answers ctx (r, ctx')

/-- The tools collect evidence in one of these ways. -/
lemma collects_run {coerce : Json → Except String Int} {name : ToolName} {answers : SourceAnswers}
    (request : (buildRegistry coerce name).Request) (ctx : ToolContext) :
    Collects answers ctx ((buildRegistry coerce name).run_ answers request ctx) := by
  -- four tools build one item, two build several, and four have no source
  cases name with
  | getIncident =>
    change Collects answers ctx (runGetIncident answers request ctx)
    unfold runGetIncident
    split
    · exact .nothing
    · split
      · rename_i built
        refine .one built ?_
        rintro _ ⟨⟩
      · rename_i built
        refine .one built ?_
        rintro _ ⟨⟩
        exact ⟨_, rfl, rfl⟩
  | getIncidentTimeline =>
    change Collects answers ctx (runGetIncidentTimeline answers request ctx)
    unfold runGetIncidentTimeline
    split
    · exact .nothing
    · split
      · rename_i built
        refine .one built ?_
        rintro _ ⟨⟩
      · rename_i built
        refine .one built ?_
        rintro _ ⟨⟩
        exact ⟨_, rfl, rfl⟩
  | getServiceMetrics =>
    change Collects answers ctx (runGetServiceMetrics answers request ctx)
    unfold runGetServiceMetrics
    split
    · exact .nothing
    · split
      · rename_i built
        refine .one built ?_
        rintro _ ⟨⟩
      · rename_i built
        refine .one built ?_
        rintro _ ⟨⟩
        exact ⟨_, rfl, rfl⟩
  | getServiceHealth =>
    change Collects answers ctx (runGetServiceHealth answers request ctx)
    unfold runGetServiceHealth
    split
    · exact .nothing
    · split
      · rename_i built
        refine .one built ?_
        rintro _ ⟨⟩
      · rename_i built
        refine .one built ?_
        rintro _ ⟨⟩
        exact ⟨_, rfl, rfl⟩
  | getAnomalyEvidence =>
    change Collects answers ctx (runGetAnomalyEvidence answers request ctx)
    unfold runGetAnomalyEvidence
    dsimp only
    split
    · exact .nothing
    · split
      · exact .nothing
      · split
        · rename_i built
          refine .several (fun _ _ => ⟨_, _, _, _, _, _, _, rfl⟩) ?_ built ?_
          · rw [List.length_take]
            omega
          · rintro _ ⟨⟩
        · rename_i built
          refine .several (fun _ _ => ⟨_, _, _, _, _, _, _, rfl⟩) ?_ built ?_
          · rw [List.length_take]
            omega
          · rintro _ ⟨⟩
            rfl
  | getRelatedIncidents =>
    change Collects answers ctx (runGetRelatedIncidents answers request ctx)
    unfold runGetRelatedIncidents
    dsimp only
    split
    · exact .nothing
    · split
      · exact .nothing
      · split
        · rename_i built
          refine .several (fun _ _ => ⟨_, _, _, _, _, _, _, rfl⟩) ?_ built ?_
          · rw [List.length_take]
            omega
          · rintro _ ⟨⟩
        · rename_i built
          refine .several (fun _ _ => ⟨_, _, _, _, _, _, _, rfl⟩) ?_ built ?_
          · rw [List.length_take]
            omega
          · rintro _ ⟨⟩
            rfl
  | getRecentLogs | getTraces | getRecentDeployments | getServiceDependencies => exact .nothing

end SentinelOps.Rca
