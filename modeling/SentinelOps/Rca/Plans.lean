import Mathlib.Data.List.Forall2
import SentinelOps.Lib.Fallible
import SentinelOps.Rca.Budget

/-!
# What the gate keeps of a plan

One pass over the planned calls: `verdict` says what becomes of a call after what was accepted before
it, and `admitOne_eq` that the gate does just that, its keys being those of the accepted calls. What
one call adds (`Gate.step`) carries over to the whole list (`gate_validatePlan`). A request model
gives back the request it dumped (`RequestModel.Stable`), so what was accepted is accepted again.
-/

namespace SentinelOps.Rca

/-- A request model with the JSON dump of a request. -/
structure RequestModel where
  Request : Type
  modelValidate : Content → Except ArgumentError Request
  dump : Request → Content

/-- The request model of a tool. -/
def EvidenceTool.model {β : Type} (tool : EvidenceTool β) : RequestModel where
  Request := tool.Request
  modelValidate := tool.requestModel
  dump := tool.dump

/-- A request is accepted again from its dump. -/
def RequestModel.Stable (m : RequestModel) : Prop :=
  ∀ content request, m.modelValidate content = .ok request →
    m.modelValidate (m.dump request) = .ok request

/-- The key of a call: the tool and the text of the normalised request. -/
def callKey (v : ValidatedCall) : ToolName × String := (v.toolName, dumpText v.arguments)

section
variable {β : Type}

/-- A planned call names a registered available tool, whose request model accepts its arguments and
dumps them to those of the validated call. -/
def Normalises (registry : ToolRegistry β) (v : ValidatedCall) (call : PlannedCall) : Prop :=
  StrEnum.parse call.tool = some v.toolName ∧ (registry v.toolName).available = true ∧
    ∃ request, (registry v.toolName).requestModel call.arguments = .ok request ∧
      v.arguments = (registry v.toolName).dump request

/-- A validated call that may be accepted for a planned one after those that were. -/
def Admissible (registry : ToolRegistry β) (accepted : List ValidatedCall) (call : PlannedCall)
    (v : ValidatedCall) : Prop :=
  Normalises registry v call ∧ callKey v ∉ accepted.map callKey

/-- What the gate did with a list of calls. -/
structure Gate (registry : ToolRegistry β) (maxCalls : Nat) (calls : List PlannedCall)
    (p : PlanValidation) : Prop where
  within : p.accepted.length ≤ maxCalls
  distinct : (p.accepted.map callKey).Nodup
  ordered : List.SublistForall₂ (Normalises registry) p.accepted calls
  conserved : p.accepted.length + p.rejected.length = calls.length

variable {registry : ToolRegistry β} {maxCalls : Nat} {p : PlanValidation}
  {seen : List (ToolName × String)} {call : PlannedCall} {calls : List PlannedCall}

/-- A planned call is either accepted as an admissible one, below the maximum, or dropped with one
reason, and then the maximum is reached or nothing is admissible for it. -/
lemma admitOne_cases (keys : seen = p.accepted.map callKey) :
    (∃ v, p.accepted.length < maxCalls ∧ Admissible registry p.accepted call v ∧
      admitOne registry maxCalls p seen call =
        ({ p with accepted := p.accepted ++ [v] }, (p.accepted ++ [v]).map callKey)) ∨
    ∃ reason, (maxCalls ≤ p.accepted.length ∨ ∀ v, ¬ Admissible registry p.accepted call v) ∧
      admitOne registry maxCalls p seen call =
        ({ p with rejected := p.rejected ++ [reason] }, p.accepted.map callKey) := by
  subst keys
  unfold admitOne
  dsimp only
  by_cases full : p.accepted.length ≥ maxCalls
  · rw [if_pos full]
    exact .inr ⟨_, .inl full, rfl⟩
  rw [if_neg full]
  cases named : (StrEnum.parse call.tool : Option ToolName) with
  | none =>
    refine .inr ⟨_, .inr ?_, rfl⟩
    rintro v ⟨⟨registered, _⟩, _⟩
    cases named.symm.trans registered
  | some name =>
    dsimp only
    by_cases unavailable : (registry name).available = false
    · rw [if_pos unavailable]
      refine .inr ⟨_, .inr ?_, rfl⟩
      rintro v ⟨⟨registered, available, _⟩, _⟩
      cases named.symm.trans registered
      cases unavailable.symm.trans available
    · rw [if_neg unavailable]
      cases validated : (registry name).requestModel call.arguments with
      | error e =>
        refine .inr ⟨_, .inr ?_, rfl⟩
        rintro v ⟨⟨registered, _, request, accepts, _⟩, _⟩
        cases named.symm.trans registered
        cases validated.symm.trans accepts
      | ok request =>
        dsimp only
        by_cases duplicate : (name, dumpText ((registry name).dump request)) ∈
            p.accepted.map callKey
        · rw [if_pos duplicate]
          refine .inr ⟨_, .inr ?_, rfl⟩
          rintro v ⟨⟨registered, _, request', accepts, dumped⟩, fresh⟩
          cases named.symm.trans registered
          cases validated.symm.trans accepts
          rw [callKey, dumped] at fresh
          exact fresh duplicate
        · rw [if_neg duplicate]
          refine .inl ⟨⟨name, (registry name).dump request⟩, not_le.mp full,
            ⟨⟨named, by simpa using unavailable, request, validated, rfl⟩, duplicate⟩, ?_⟩
          simp [callKey]

/-- What the gate makes of one more call. -/
def gateStep (registry : ToolRegistry β) (maxCalls : Nat) (p : PlanValidation)
    (call : PlannedCall) : PlanValidation :=
  (admitOne registry maxCalls p (p.accepted.map callKey) call).1

/-- One call is accepted or dropped. -/
lemma gateStep_cases (registry : ToolRegistry β) (maxCalls : Nat) (p : PlanValidation)
    (call : PlannedCall) :
    (∃ v, p.accepted.length < maxCalls ∧ Admissible registry p.accepted call v ∧
      gateStep registry maxCalls p call = { p with accepted := p.accepted ++ [v] }) ∨
    ∃ reason, (maxCalls ≤ p.accepted.length ∨ ∀ v, ¬ Admissible registry p.accepted call v) ∧
      gateStep registry maxCalls p call = { p with rejected := p.rejected ++ [reason] } := by
  obtain ⟨v, below, admissible, e⟩ | ⟨reason, refused, e⟩ := admitOne_cases rfl
  · exact .inl ⟨v, below, admissible, congrArg Prod.fst e⟩
  · exact .inr ⟨reason, refused, congrArg Prod.fst e⟩

/-- The keys the gate has seen are those of the accepted calls. -/
lemma admitOne_snd : (admitOne registry maxCalls p (p.accepted.map callKey) call).2 =
    (gateStep registry maxCalls p call).accepted.map callKey := by
  unfold gateStep
  obtain ⟨v, _, _, e⟩ | ⟨reason, _, e⟩ := admitOne_cases rfl <;> rw [e]

/-- The gate takes one call after the other. -/
lemma validatePlan_eq : validatePlan registry maxCalls calls =
    calls.foldl (gateStep registry maxCalls) {} := by
  have general (p : PlanValidation) : admitAll registry maxCalls p (p.accepted.map callKey) calls =
      calls.foldl (gateStep registry maxCalls) p := by
    induction calls generalizing p with
    | nil => rfl
    | cons call calls ih =>
      unfold admitAll
      rw [admitOne_snd, List.foldl_cons]
      exact ih _
  exact general {}

namespace Gate

/-- Before the first call. -/
lemma initial : Gate registry maxCalls [] {} where
  within := Nat.zero_le _
  distinct := List.nodup_nil
  ordered := .nil
  conserved := rfl

/-- One more call. -/
lemma step (h : Gate registry maxCalls calls p) (call : PlannedCall) :
    Gate registry maxCalls (calls ++ [call]) (gateStep registry maxCalls p call) := by
  obtain ⟨sub, related, sublist⟩ := List.sublistForall₂_iff.mp h.ordered
  have conserved := h.conserved
  obtain ⟨v, below, ⟨normalises, fresh⟩, e⟩ | ⟨reason, _, e⟩ :=
    gateStep_cases registry maxCalls p call
  · rw [e]
    constructor
    · simpa using Nat.succ_le_of_lt below
    · rw [List.map_append, List.map_singleton, List.nodup_append]
      refine ⟨h.distinct, List.nodup_singleton _, ?_⟩
      intro key old key' new
      rw [List.mem_singleton.mp new]
      rintro rfl
      exact fresh old
    · exact List.sublistForall₂_iff.mpr ⟨sub ++ [call], List.rel_append related
        (.cons normalises .nil), sublist.append (List.Sublist.refl _)⟩
    · simp
      omega
  · rw [e]
    constructor
    · exact h.within
    · exact h.distinct
    · exact List.sublistForall₂_iff.mpr
        ⟨sub, related, sublist.trans (List.sublist_append_left _ _)⟩
    · simp
      omega

/-- Any number of further calls. -/
lemma foldl (h : Gate registry maxCalls calls p) (more : List PlannedCall) :
    Gate registry maxCalls (calls ++ more) (more.foldl (gateStep registry maxCalls) p) := by
  induction more generalizing calls p with
  | nil => simpa using h
  | cons call more ih =>
    have next := ih (h.step call)
    rwa [List.append_assoc, List.singleton_append] at next

end Gate

/-- What was accepted and dropped stays so. -/
lemma foldl_extends (more : List PlannedCall) :
    p.accepted <+: (more.foldl (gateStep registry maxCalls) p).accepted ∧
      p.rejected <+: (more.foldl (gateStep registry maxCalls) p).rejected := by
  induction more generalizing p with
  | nil => exact ⟨List.prefix_refl _, List.prefix_refl _⟩
  | cons call more ih =>
    obtain ⟨accepted, rejected⟩ := @ih (gateStep registry maxCalls p call)
    obtain ⟨v, _, _, e⟩ | ⟨reason, _, e⟩ := gateStep_cases registry maxCalls p call
    · rw [e] at accepted rejected
      rw [List.foldl_cons, e]
      exact ⟨(List.prefix_append _ _).trans accepted, rejected⟩
    · rw [e] at accepted rejected
      rw [List.foldl_cons, e]
      exact ⟨accepted, (List.prefix_append _ _).trans rejected⟩

end

section
variable {content content' : Content} {loc : String}

/-- A required string of a request. -/
lemma strField_ok {ok : String → Option String} {s} :
    strField content loc ok = .ok s ↔ content.get? loc = some (.str s) ∧ ok s = none := by
  unfold strField
  cases present : content.get? loc with
  | none => simp
  | some v =>
    cases v with
    | str t =>
      cases refused : ok t with
      | none =>
        simp only [refused, Option.elim_none, Except.ok.injEq, Option.some.injEq, Json.str.injEq]
        constructor
        · rintro rfl
          exact ⟨rfl, refused⟩
        · rintro ⟨rfl, _⟩
          rfl
      | some msg =>
        simp only [refused, Option.elim_some, reduceCtorEq, Option.some.injEq, Json.str.injEq,
          false_iff, not_and]
        rintro rfl accepted
        cases refused.symm.trans accepted
    | null | bool _ | int _ | float _ | list _ | dict _ => simp

/-- An integer of a request is within its bounds. -/
lemma intField_bounds {coerce default lo hi n} (least : lo ≤ default) (most : default ≤ hi)
    (accepted : intField coerce content loc default lo hi = .ok n) : lo ≤ n ∧ n ≤ hi := by
  unfold intField at accepted
  split at accepted
  · cases accepted
    exact ⟨least, most⟩
  · split at accepted
    · cases accepted
    · split at accepted
      · cases accepted
      · split at accepted
        · cases accepted
        · cases accepted
          constructor <;> omega

/-- An integer within its bounds is read back from a dump. -/
lemma intField_dumped {coerce : Json → Except String Int} {default lo hi n}
    (exact_ : ∀ n, coerce (.int n) = .ok n) (present : content.get? loc = some (.int n))
    (bounds : lo ≤ n ∧ n ≤ hi) : intField coerce content loc default lo hi = .ok n := by
  unfold intField
  rw [present]
  dsimp only
  rw [exact_]
  dsimp only
  rw [if_neg (not_lt.mpr bounds.1), if_neg (not_lt.mpr bounds.2)]

/-- A status of a request is read back from a dump. -/
lemma statusField_dumped {status} (accepted : statusField content = .ok status)
    (present : content'.get? "status" = some (status.elim .null .str)) :
    statusField content' = .ok status := by
  unfold statusField at accepted ⊢
  rw [present]
  split at accepted
  · cases accepted
    rfl
  · cases accepted
    rfl
  · rename_i s _
    split at accepted
    · rename_i known
      cases accepted
      exact if_pos known
    · cases accepted
  · cases accepted

/-- The strings of a list of strings. -/
lemma strings_map_str {names : List String} {i} : strings i (names.map .str) = .ok names := by
  induction names generalizing i with
  | nil => rfl
  | cons name names ih =>
    show (strings (i + 1) (names.map .str)).map (name :: ·) = _
    rw [ih]
    rfl

/-- The metric names of a request are read back from a dump. -/
lemma metricNamesField_dumped {names} (accepted : metricNamesField content = .ok names)
    (present : content'.get? "metric_names" = some (.list (names.map .str))) :
    metricNamesField content' = .ok names := by
  unfold metricNamesField at accepted ⊢
  rw [present]
  dsimp only
  rw [strings_map_str]
  dsimp only
  split at accepted
  · cases accepted
  · split at accepted
    · cases accepted
    · split at accepted
      · cases accepted
      · split at accepted
        · cases accepted
        · split at accepted
          · cases accepted
          · rename_i some_name few _ valid
            cases accepted
            rw [if_neg some_name, if_neg few, valid]
  · cases accepted

/-- An optional text of a request. -/
def textField (content : Content) (loc : String) (ok : String → Option String) :
    Except ArgumentError (Option String) :=
  match content.get? loc with
  | none | some .null => .ok none
  | some (.str s) => (ok s).elim (.ok (some s)) fun msg => .error ⟨loc, msg⟩
  | some _ => .error ⟨loc, "Input should be a valid string"⟩

/-- An optional text of a request is read back from a dump. -/
lemma textField_dumped {ok : String → Option String} {s}
    (accepted : textField content loc ok = .ok s)
    (present : content'.get? loc = some (s.elim .null .str)) :
    textField content' loc ok = .ok s := by
  unfold textField at accepted ⊢
  rw [present]
  split at accepted
  · cases accepted
    rfl
  · cases accepted
    rfl
  · rename_i t _
    cases refused : ok t with
    | none =>
      rw [refused] at accepted
      cases accepted
      show (ok t).elim _ _ = _
      rw [refused]
      rfl
    | some msg =>
      rw [refused] at accepted
      cases accepted
  · cases accepted

/-- The `direction` field of `GetServiceDependenciesRequest`. -/
def directionField (content : Content) : Except ArgumentError String :=
  match content.get? "direction" with
  | none => .ok "both"
  | some (.str s) =>
    if s ∈ ["upstream", "downstream", "both"] then .ok s
    else .error ⟨"direction", "Input should be 'upstream', 'downstream' or 'both'"⟩
  | some _ => .error ⟨"direction", "Input should be 'upstream', 'downstream' or 'both'"⟩

/-- The direction of a request is read back from a dump. -/
lemma directionField_dumped {s} (accepted : directionField content = .ok s)
    (present : content'.get? "direction" = some (.str s)) :
    directionField content' = .ok s := by
  unfold directionField at accepted ⊢
  rw [present]
  split at accepted
  · cases accepted
    rfl
  · split at accepted
    · rename_i known
      cases accepted
      exact if_pos known
    · cases accepted
  · cases accepted

/-- An object has no field but those it was given. -/
lemma noExtra_object {fields : List (String × Json)} {names : List String}
    (known : ∀ e ∈ fields, e.1 ∈ names) : noExtra (object fields) names = .ok () := by
  have keys {d : Content} (old : ∀ e ∈ d.entries, e.1 ∈ names) :
      ∀ e ∈ (fields.foldl (fun d e => d.set e.1 e.2) d).entries, e.1 ∈ names := by
    induction fields generalizing d with
    | nil => exact old
    | cons field fields ih =>
      refine ih (fun e member => known e (List.mem_cons_of_mem _ member)) ?_
      intro e member
      have key : e.1 ∈ (d.set field.1 field.2).keys := List.mem_map_of_mem member
      by_cases same : e.1 = field.1
      · rw [same]
        exact known field List.mem_cons_self
      · have value := Dict.get?_eq_some_iff.mpr member
        rw [Dict.get?_set_ne same] at value
        exact old _ (Dict.get?_eq_some_iff.mp value)
  unfold noExtra
  have none_extra : (object fields).entries.find? (fun e => decide (e.1 ∉ names)) = none := by
    rw [List.find?_eq_none]
    intro e member
    simpa using keys (fun e empty => by cases empty) e member
  rw [none_extra]

end

/-- `GetRecentLogsRequest`. -/
structure LogsRequest where
  service : String
  lookbackMinutes : Int
  limit : Int
  contains : Option String

/-- `GetTracesRequest`. -/
structure TracesRequest where
  service : String
  traceId : Option String
  lookbackMinutes : Int
  limit : Int

/-- `GetRecentDeploymentsRequest`. -/
structure DeploymentsRequest where
  service : String
  lookbackHours : Int

/-- `GetServiceDependenciesRequest`. -/
structure DependenciesRequest where
  service : String
  direction : String

/-- `Field(max_length=200)`. -/
def containsOk (s : String) : Option String :=
  if Fits 200 s then none else some "String should have at most 200 characters"

/-- `Field(pattern=_TRACE_ID_RE)`. -/
def traceIdOk (s : String) : Option String :=
  if 8 ≤ s.length ∧ s.length ≤ 32 ∧
      s.toList.all (fun c => c.isDigit || decide ('a' ≤ c ∧ c ≤ 'f')) = true then none
  else some "String should match pattern '^[0-9a-f]\x7b8,32\x7d$'"

/-- The request models of the tools, those of the sources that are not deployed included. -/
def contract (coerce : Json → Except String Int) : ToolName → RequestModel
  | .getRecentLogs =>
    { Request := LogsRequest
      modelValidate := fun content => do
        let service ← strField content "service" serviceOk
        let lookbackMinutes ← intField coerce content "lookback_minutes" 30 1 360
        let limit ← intField coerce content "limit" 100 1 500
        let contains ← textField content "contains" containsOk
        noExtra content ["service", "lookback_minutes", "limit", "contains"]
        pure ⟨service, lookbackMinutes, limit, contains⟩
      dump := fun r => object [("service", .str r.service),
        ("lookback_minutes", .int r.lookbackMinutes), ("limit", .int r.limit),
        ("contains", r.contains.elim .null .str)] }
  | .getTraces =>
    { Request := TracesRequest
      modelValidate := fun content => do
        let service ← strField content "service" serviceOk
        let traceId ← textField content "trace_id" traceIdOk
        let lookbackMinutes ← intField coerce content "lookback_minutes" 30 1 360
        let limit ← intField coerce content "limit" 20 1 100
        noExtra content ["service", "trace_id", "lookback_minutes", "limit"]
        pure ⟨service, traceId, lookbackMinutes, limit⟩
      dump := fun r => object [("service", .str r.service), ("trace_id", r.traceId.elim .null .str),
        ("lookback_minutes", .int r.lookbackMinutes), ("limit", .int r.limit)] }
  | .getRecentDeployments =>
    { Request := DeploymentsRequest
      modelValidate := fun content => do
        let service ← strField content "service" serviceOk
        let lookbackHours ← intField coerce content "lookback_hours" 48 1 336
        noExtra content ["service", "lookback_hours"]
        pure ⟨service, lookbackHours⟩
      dump := fun r => object [("service", .str r.service),
        ("lookback_hours", .int r.lookbackHours)] }
  | .getServiceDependencies =>
    { Request := DependenciesRequest
      modelValidate := fun content => do
        let service ← strField content "service" serviceOk
        let direction ← directionField content
        noExtra content ["service", "direction"]
        pure ⟨service, direction⟩
      dump := fun r => object [("service", .str r.service), ("direction", .str r.direction)] }
  | name => (buildRegistry coerce name).model

/-- `GetIncidentRequest` and `GetIncidentTimelineRequest` give back what they dumped. -/
lemma incidentRequest_stable {content i} (accepted : incidentRequest content = .ok i) :
    incidentRequest (object [("incident_id", .str i)]) = .ok i := by
  unfold incidentRequest at accepted
  obtain ⟨i', id, accepted⟩ := Except.bind_eq_ok.mp accepted
  obtain ⟨_, _, accepted⟩ := Except.bind_eq_ok.mp accepted
  cases accepted
  unfold incidentRequest
  rw [strField_ok.mpr ⟨by simp [object], (strField_ok.mp id).2⟩, noExtra_object (by simp)]
  rfl

/-- Every request model gives back the request it dumped. -/
theorem contract_stable {coerce : Json → Except String Int} (exact_ : ∀ n, coerce (.int n) = .ok n)
    (name : ToolName) : (contract coerce name).Stable := by
  intro content request accepted
  -- each model reads back from its dump the fields it had read, in the same order
  cases name with
  | getIncident => exact incidentRequest_stable accepted
  | getIncidentTimeline => exact incidentRequest_stable accepted
  | getAnomalyEvidence =>
    simp only [contract, EvidenceTool.model, buildRegistry] at accepted request ⊢
    obtain ⟨i, id, accepted⟩ := Except.bind_eq_ok.mp accepted
    obtain ⟨n, limit, accepted⟩ := Except.bind_eq_ok.mp accepted
    obtain ⟨_, _, accepted⟩ := Except.bind_eq_ok.mp accepted
    cases accepted
    unfold AnomalyRequest.dump
    rw [strField_ok.mpr ⟨by simp [object, Dict.get?_set], (strField_ok.mp id).2⟩,
      intField_dumped exact_ (by simp [object])
        (intField_bounds (by decide) (by decide) limit), noExtra_object (by simp)]
    rfl
  | getRelatedIncidents =>
    simp only [contract, EvidenceTool.model, buildRegistry] at accepted request ⊢
    obtain ⟨s, service, accepted⟩ := Except.bind_eq_ok.mp accepted
    obtain ⟨hours, lookback, accepted⟩ := Except.bind_eq_ok.mp accepted
    obtain ⟨st, status, accepted⟩ := Except.bind_eq_ok.mp accepted
    obtain ⟨n, limit, accepted⟩ := Except.bind_eq_ok.mp accepted
    obtain ⟨_, _, accepted⟩ := Except.bind_eq_ok.mp accepted
    cases accepted
    unfold RelatedRequest.dump
    rw [strField_ok.mpr ⟨by simp [object, Dict.get?_set], (strField_ok.mp service).2⟩,
      intField_dumped exact_ (by simp [object, Dict.get?_set])
        (intField_bounds (by decide) (by decide) lookback),
      statusField_dumped status (by simp [object, Dict.get?_set]),
      intField_dumped exact_ (by simp [object])
        (intField_bounds (by decide) (by decide) limit), noExtra_object (by simp)]
    rfl
  | getServiceMetrics =>
    simp only [contract, EvidenceTool.model, buildRegistry] at accepted request ⊢
    obtain ⟨s, service, accepted⟩ := Except.bind_eq_ok.mp accepted
    obtain ⟨names, metrics, accepted⟩ := Except.bind_eq_ok.mp accepted
    obtain ⟨_, _, accepted⟩ := Except.bind_eq_ok.mp accepted
    cases accepted
    unfold MetricsRequest.dump
    rw [strField_ok.mpr ⟨by simp [object, Dict.get?_set], (strField_ok.mp service).2⟩,
      metricNamesField_dumped metrics (by simp [object]), noExtra_object (by simp)]
    rfl
  | getServiceHealth =>
    simp only [contract, EvidenceTool.model, buildRegistry] at accepted request ⊢
    obtain ⟨s, service, accepted⟩ := Except.bind_eq_ok.mp accepted
    obtain ⟨_, _, accepted⟩ := Except.bind_eq_ok.mp accepted
    cases accepted
    rw [strField_ok.mpr ⟨by simp [object], (strField_ok.mp service).2⟩, noExtra_object (by simp)]
    rfl
  | getRecentLogs =>
    simp only [contract] at accepted request ⊢
    obtain ⟨s, service, accepted⟩ := Except.bind_eq_ok.mp accepted
    obtain ⟨minutes, lookback, accepted⟩ := Except.bind_eq_ok.mp accepted
    obtain ⟨n, limit, accepted⟩ := Except.bind_eq_ok.mp accepted
    obtain ⟨text, contains, accepted⟩ := Except.bind_eq_ok.mp accepted
    obtain ⟨_, _, accepted⟩ := Except.bind_eq_ok.mp accepted
    cases accepted
    rw [strField_ok.mpr ⟨by simp [object, Dict.get?_set], (strField_ok.mp service).2⟩,
      intField_dumped exact_ (by simp [object, Dict.get?_set])
        (intField_bounds (by decide) (by decide) lookback),
      intField_dumped exact_ (by simp [object, Dict.get?_set])
        (intField_bounds (by decide) (by decide) limit),
      textField_dumped contains (by simp [object]), noExtra_object (by simp)]
    rfl
  | getTraces =>
    simp only [contract] at accepted request ⊢
    obtain ⟨s, service, accepted⟩ := Except.bind_eq_ok.mp accepted
    obtain ⟨id, trace, accepted⟩ := Except.bind_eq_ok.mp accepted
    obtain ⟨minutes, lookback, accepted⟩ := Except.bind_eq_ok.mp accepted
    obtain ⟨n, limit, accepted⟩ := Except.bind_eq_ok.mp accepted
    obtain ⟨_, _, accepted⟩ := Except.bind_eq_ok.mp accepted
    cases accepted
    rw [strField_ok.mpr ⟨by simp [object, Dict.get?_set], (strField_ok.mp service).2⟩,
      textField_dumped trace (by simp [object, Dict.get?_set]),
      intField_dumped exact_ (by simp [object, Dict.get?_set])
        (intField_bounds (by decide) (by decide) lookback),
      intField_dumped exact_ (by simp [object])
        (intField_bounds (by decide) (by decide) limit), noExtra_object (by simp)]
    rfl
  | getRecentDeployments =>
    simp only [contract] at accepted request ⊢
    obtain ⟨s, service, accepted⟩ := Except.bind_eq_ok.mp accepted
    obtain ⟨hours, lookback, accepted⟩ := Except.bind_eq_ok.mp accepted
    obtain ⟨_, _, accepted⟩ := Except.bind_eq_ok.mp accepted
    cases accepted
    rw [strField_ok.mpr ⟨by simp [object, Dict.get?_set], (strField_ok.mp service).2⟩,
      intField_dumped exact_ (by simp [object])
        (intField_bounds (by decide) (by decide) lookback), noExtra_object (by simp)]
    rfl
  | getServiceDependencies =>
    simp only [contract] at accepted request ⊢
    obtain ⟨s, service, accepted⟩ := Except.bind_eq_ok.mp accepted
    obtain ⟨d, direction, accepted⟩ := Except.bind_eq_ok.mp accepted
    obtain ⟨_, _, accepted⟩ := Except.bind_eq_ok.mp accepted
    cases accepted
    rw [strField_ok.mpr ⟨by simp [object, Dict.get?_set], (strField_ok.mp service).2⟩,
      directionField_dumped direction (by simp [object]), noExtra_object (by simp)]
    rfl

/-- The available tools of a registry have the request models of the contracts. -/
def Contracted {β : Type} (coerce : Json → Except String Int) (registry : ToolRegistry β) : Prop :=
  ∀ name, (registry name).available = true → (registry name).model = contract coerce name

/-- The registry of the deployment has them. -/
lemma contracted_buildRegistry {coerce : Json → Except String Int} :
    Contracted coerce (buildRegistry coerce) := by
  intro name available
  cases name with
  | getIncident | getIncidentTimeline | getAnomalyEvidence | getRelatedIncidents
  | getServiceMetrics | getServiceHealth => rfl
  | getRecentLogs | getTraces | getRecentDeployments | getServiceDependencies => cases available

/-- The gate keeps exactly the admissible calls: at most the maximum, in the order of the plan, from
registered available tools and with distinct normalised requests. Each call is accepted or dropped
with one reason, in this order; below the maximum it is accepted when something is admissible for it.
With the request models of the tools, the arguments of an accepted call are validated again to the
same request. -/
theorem plan_keeps_admissible {β : Type} (coerce : Json → Except String Int)
    (exact_ : ∀ n, coerce (.int n) = .ok n) (registry : ToolRegistry β)
    (contracted : Contracted coerce registry) (maxCalls : Nat) (calls : List PlannedCall) :
    Gate registry maxCalls calls (validatePlan registry maxCalls calls) ∧
    (∀ before call after, calls = before ++ call :: after →
      let p := validatePlan registry maxCalls before
      let p' := validatePlan registry maxCalls (before ++ [call])
      ((∃ v, p.accepted.length < maxCalls ∧ Admissible registry p.accepted call v ∧
          p' = { p with accepted := p.accepted ++ [v] }) ∨
        ∃ reason, (maxCalls ≤ p.accepted.length ∨ ∀ v, ¬ Admissible registry p.accepted call v) ∧
          p' = { p with rejected := p.rejected ++ [reason] }) ∧
      p'.accepted <+: (validatePlan registry maxCalls calls).accepted ∧
      p'.rejected <+: (validatePlan registry maxCalls calls).rejected) ∧
    ∀ v ∈ (validatePlan registry maxCalls calls).accepted, ∀ call ∈ calls, Normalises registry v call →
      ∃ request, (registry v.toolName).requestModel call.arguments = .ok request ∧
        (registry v.toolName).requestModel v.arguments = .ok request := by
  refine ⟨?_, ?_, ?_⟩
  · have gate := (@Gate.initial β registry maxCalls).foldl calls
    rwa [List.nil_append, ← validatePlan_eq] at gate
  · rintro before call after rfl
    dsimp only
    simp only [validatePlan_eq, List.foldl_append, List.foldl_cons, List.foldl_nil]
    exact ⟨gateStep_cases registry maxCalls _ call, foldl_extends after⟩
  · intro v _ call _ normalises
    obtain ⟨_, available, request, validated, dumped⟩ := normalises
    refine ⟨request, validated, ?_⟩
    rw [dumped]
    have stable : (registry v.toolName).model.Stable := by
      rw [contracted v.toolName available]
      exact contract_stable exact_ v.toolName
    exact stable call.arguments request validated

/-- A plan that asks twice for the timeline keeps one of the two calls. -/
theorem plan_keeps_one_timeline :
    Gate (sampleDeps {}).registry 2 [timelineCall, timelineCall]
      (validatePlan (sampleDeps {}).registry 2 [timelineCall, timelineCall]) ∧
    (validatePlan (sampleDeps {}).registry 2 [timelineCall, timelineCall]).accepted.length = 1 ∧
    (validatePlan (sampleDeps {}).registry 2 [timelineCall, timelineCall]).rejected.length = 1 := by
  refine ⟨?_, by decide +kernel, by decide +kernel⟩
  exact (plan_keeps_admissible _ (fun _ => rfl) _ contracted_buildRegistry 2
    [timelineCall, timelineCall]).1

end SentinelOps.Rca
