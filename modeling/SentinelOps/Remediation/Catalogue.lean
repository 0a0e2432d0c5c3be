import SentinelOps.Remediation.Vocabulary
import SentinelOps.Lib.Dict
import SentinelOps.Lib.Fallible
import SentinelOps.Lib.PyText

/-!
# Targets, the closed action catalogue and approval authority

Identifiers and structured targets, the catalogue with one definition for every action type, the
check of a target and of an action's parameters against it (`isAllowedTarget`,
`validateActionParameters`) and the authorization matrix (`canApprove`), which reads the risk of an
action from the catalogue and from nowhere else.
-/

namespace SentinelOps.Remediation

/-- `C(…)`, which raises `ValidationError` on fields its schema refuses. -/
def constructOr {α : Type} [Schema α] (title : String) (a : α) : Except Error (Validated α) :=
  match construct a with
  | some x => .ok x
  | none => .error ⟨.validation, title⟩

/-- A constructed value has the fields it was built from. -/
lemma constructOr_eq_ok {α : Type} [Schema α] {title} {a : α} {x} :
    constructOr title a = .ok x ↔ a = x.val := by
  unfold constructOr
  rw [← construct_eq_some]
  cases construct a with
  | some y => simp
  | none => simp

/-- `secrets.token_hex(8)`: sixteen lower-case hexadecimal digits. -/
structure Token where
  text : String
  hex : text.toList.all (fun c => c.isDigit || ('a' ≤ c && c ≤ 'f')) = true ∧ text.length = 16

/-- A lower-case hexadecimal digit. -/
def isHex (c : Char) : Bool := c.isDigit || ('a' ≤ c && c ≤ 'f')

/-- `^<tag>[0-9a-f]{lo,hi}$`, where the end is the end of the string. -/
def matchesId (tag : String) (lo hi : Nat) (s : String) : Bool :=
  s.toList.take tag.length == tag.toList &&
    (let rest := s.toList.drop tag.length
     lo ≤ rest.length && rest.length ≤ hi && rest.all isHex)

/-- `INCIDENT_ID_RE`. -/
def isIncidentId : String → Bool := matchesId "inc_" 6 32

/-- `INVESTIGATION_ID_RE`. -/
def isInvestigationId : String → Bool := matchesId "rca_" 16 16

/-- `REMEDIATION_ID_RE`. -/
def isRemediationId : String → Bool := matchesId "rem_" 16 16

/-- `APPROVAL_ID_RE`. -/
def isApprovalId : String → Bool := matchesId "apr_" 16 16

/-- `new_remediation_id`. -/
def newRemediationId (t : Token) : String := "rem_" ++ t.text

/-- `new_approval_id`. -/
def newApprovalId (t : Token) : String := "apr_" ++ t.text

/-- A tag followed by a token is an identifier of that tag. -/
lemma matchesId_token {tag : String} {t : Token} : matchesId tag 16 16 (tag ++ t.text) = true := by
  obtain ⟨text, hex, len⟩ := t
  rw [← String.length_toList] at len
  simp only [matchesId, String.toList_append, ← String.length_toList, List.take_left,
    List.drop_left, len]
  simpa [isHex] using hex

/-- `ALLOWED_TARGET_SERVICES`. -/
def allowedTargetServices : List String := ["orders-service"]

/-- `ALLOWED_ENVIRONMENTS`. -/
def allowedEnvironments : List String := ["development", "staging", "production"]

/-- `_SERVICE_NAME_RE.match`: the `$` of `re` also matches before a final newline. -/
def isServiceSlug (s : String) : Bool :=
  let body := if s.toList.getLast? = some '\n' then s.toList.dropLast else s.toList
  match body with
  | [] => false
  | c :: cs => ('a' ≤ c && c ≤ 'z') && 1 ≤ cs.length && cs.length ≤ 62 &&
      cs.all fun c => ('a' ≤ c && c ≤ 'z') || c.isDigit || c == '-'

/-- The fields of a target. -/
structure ServiceTargetFields where
  targetType : TargetType := .service
  serviceName : String
  environment : String
  deriving DecidableEq

instance : Schema ServiceTargetFields where
  Valid t := 2 ≤ t.serviceName.length ∧ t.serviceName.length ≤ 63 ∧
    isServiceSlug t.serviceName = true ∧ t.environment ∈ allowedEnvironments
  decidable _ := inferInstanceAs (Decidable (_ ∧ _ ∧ _ ∧ _))

/-- A structured remediation target: a named service in a named environment. -/
abbrev ServiceTarget := Validated ServiceTargetFields

/-- `str(target)`. -/
def ServiceTarget.text (t : ServiceTarget) : String := s!"{t.val.serviceName}:{t.val.environment}"

/-- `is_allowed_service`. -/
def isAllowedService (serviceName : String) : Bool := decide (serviceName ∈ allowedTargetServices)

/-- `resolve_target`. -/
def resolveTarget (target : ServiceTarget) : Except Error ServiceTarget := do
  ensure (isAllowedService target.val.serviceName = true)
    ⟨.unknownTarget, s!"target service {Py.repr target.val.serviceName} is not on the remediation "
      ++ s!"allow-list ({Py.reprList allowedTargetServices})"⟩
  return target

/-- The value types of an action parameter. -/
inductive ValueType where
  | int
  | string
  deriving DecidableEq

/-- A single bounded, named parameter of an action. The pattern of a string parameter is a
character class with a length range, matched against the whole value. -/
structure ActionParameter where
  name : String
  description : String
  required : Bool
  valueType : ValueType
  minValue : Option Int := none
  maxValue : Option Int := none
  pattern : Option ((Char → Bool) × Nat × Nat) := none
  allowedValues : Option (List String) := none

/-- The definition of one catalogue action. -/
structure ActionDefinition where
  actionType : RemediationActionType
  description : String
  allowedTargetTypes : List TargetType
  allowedTargetServices : List String
  allowedSeverities : List String
  riskLevel : RiskLevel
  executorType : ExecutorType
  maxBlastRadius : Nat
  timeoutSeconds : Nat
  cooldownSeconds : Nat
  parameters : List ActionParameter := []

/-- `required_parameter_names`. -/
def ActionDefinition.requiredParameterNames (d : ActionDefinition) : List String :=
  (d.parameters.filter (·.required)).map (·.name)

/-- `_HIGHER_SEVERITIES`. -/
def higherSeverities : List String := ["MEDIUM", "HIGH", "CRITICAL"]

/-- `[A-Za-z0-9._-]`. -/
def isRevisionChar (c : Char) : Bool := c.isAlphanum || c == '.' || c == '_' || c == '-'

/-- `[a-z0-9_.-]`. -/
def isFlagChar (c : Char) : Bool :=
  ('a' ≤ c && c ≤ 'z') || c.isDigit || c == '_' || c == '.' || c == '-'

/-- `_def`: the fields every catalogue entry shares. -/
def actionDef (actionType : RemediationActionType) (description : String) (riskLevel : RiskLevel)
    (allowedSeverities : List String) (maxBlastRadius timeoutSeconds cooldownSeconds : Nat)
    (parameters : List ActionParameter) : ActionDefinition where
  actionType
  description
  allowedTargetTypes := [.service]
  allowedTargetServices := ["orders-service"]
  allowedSeverities
  riskLevel
  executorType := .localSimulation
  maxBlastRadius
  timeoutSeconds
  cooldownSeconds
  parameters

/-- `ACTION_CATALOGUE`: one definition for every action type. -/
def actionCatalogue : RemediationActionType → ActionDefinition
  | .restartService =>
    actionDef .restartService
      ("Restart the target service's running instances to clear transient in-process "
        ++ "state (saturated connection pools, stuck worker threads, corrupt in-memory caches).")
      .medium higherSeverities 1 120 300 []
  | .scaleService =>
    actionDef .scaleService
      "Set the number of running replicas for the target service, within bounds."
      .medium higherSeverities 10 180 300
      [{ name := "replicas", description := "Desired replica count.", required := true,
         valueType := .int, minValue := some 1, maxValue := some 10 }]
  | .rollBackDeployment =>
    actionDef .rollBackDeployment
      "Roll the target service back to its previous known-good deployment revision."
      .high higherSeverities 1 300 600
      [{ name := "to_revision",
         description := "Explicit revision id to roll back to; omitted means the immediately "
           ++ "previous revision.",
         required := false, valueType := .string, pattern := some (isRevisionChar, 1, 64) }]
  | .disableFeatureFlag =>
    actionDef .disableFeatureFlag
      "Turn a named feature flag off for the target service."
      .low ["LOW", "MEDIUM", "HIGH", "CRITICAL"] 1 30 60
      [{ name := "flag_key", description := "The feature-flag key to disable.", required := true,
         valueType := .string, pattern := some (isFlagChar, 1, 64) }]

/-- `get_action_definition`: the catalogue is total, so the definition is always there. -/
def getActionDefinition (actionType : RemediationActionType) : Option ActionDefinition :=
  some (actionCatalogue actionType)

/-- `require_action_definition` on a member of the enumeration. -/
def requireActionDefinition (actionType : RemediationActionType) :
    Except Error ActionDefinition :=
  .ok (actionCatalogue actionType)

/-- `is_allowed_target`. -/
def isAllowedTarget (actionType : RemediationActionType) (target : ServiceTarget) : Bool :=
  match getActionDefinition actionType with
  | none => false
  | some definition =>
    decide (target.val.targetType ∈ definition.allowedTargetTypes) &&
      isAllowedService target.val.serviceName &&
      decide (target.val.serviceName ∈ definition.allowedTargetServices)

/-- `type(value).__name__`. -/
def Scalar.typeName : Scalar → String
  | .str _ => "str"
  | .int _ => "int"
  | .bool _ => "bool"

/-- `_validate_one`. -/
def validateOne (actionType : RemediationActionType) (spec : ActionParameter) (value : Scalar) :
    Except Error Scalar :=
  let refuse (text : String) : Error :=
    ⟨.parameterValidation, s!"{str actionType}.{spec.name} {text}"⟩
  match spec.valueType, value with
  | .int, .int n => do
    ensure (∀ m ∈ spec.minValue, m ≤ n) (refuse s!"must be >= {spec.minValue.getD 0}")
    ensure (∀ m ∈ spec.maxValue, n ≤ m) (refuse s!"must be <= {spec.maxValue.getD 0}")
    return value
  | .int, _ => .error (refuse s!"must be an int, got {value.typeName}")
  | .string, .str s => do
    ensure (∀ vs ∈ spec.allowedValues, s ∈ vs)
      (refuse s!"must be one of {Py.reprList (spec.allowedValues.getD [])}")
    ensure (∀ p ∈ spec.pattern, s.toList.all p.1 = true ∧ p.2.1 ≤ s.length ∧ s.length ≤ p.2.2)
      (refuse "does not match the allowed pattern")
    return value
  | .string, _ => .error (refuse s!"must be a string, got {value.typeName}")

/-- The loop of `validate_action_parameters` over the declared parameters. -/
def normalizeParameters (actionType : RemediationActionType) (parameters : Dict String Scalar) :
    List ActionParameter → Dict String Scalar → Except Error (Dict String Scalar)
  | [], normalized => .ok normalized
  | spec :: specs, normalized =>
    match parameters.get? spec.name with
    | none => normalizeParameters actionType parameters specs normalized
    | some value => do
      let v ← validateOne actionType spec value
      normalizeParameters actionType parameters specs (normalized.set spec.name v)

/-- `validate_action_parameters`: the normalized parameters, or why they break the schema. -/
def validateActionParameters (actionType : RemediationActionType)
    (parameters : Dict String Scalar) : Except Error (Dict String Scalar) := do
  let definition ← requireActionDefinition actionType
  let unknown := parameters.keys.filter fun k => !(definition.parameters.map (·.name)).contains k
  ensure (unknown = []) ⟨.parameterValidation,
    s!"unknown parameter(s) for {str actionType}: {Py.reprList (Py.sortedStr unknown)}"⟩
  let missing := definition.requiredParameterNames.filter fun k => !parameters.keys.contains k
  ensure (missing = []) ⟨.parameterValidation,
    s!"missing required parameter(s) for {str actionType}: {Py.reprList (Py.sortedStr missing)}"⟩
  normalizeParameters actionType parameters definition.parameters .empty

/-- `APPROVAL_MATRIX`. -/
def approvalMatrix : ApproverRole → List RiskLevel
  | .operator => [.low]
  | .incidentResponder => [.low, .medium]
  | .administrator => [.low, .medium, .high]

/-- `can_approve`: the catalogue risk of the action is within the role's authority. -/
def canApprove (role : ApproverRole) (actionType : RemediationActionType) : Bool :=
  decide ((actionCatalogue actionType).riskLevel ∈ approvalMatrix role)

/-- A role that may approve an action may approve every action of no higher risk. -/
lemma canApprove_mono {role a b}
    (le : (actionCatalogue b).riskLevel.rank ≤ (actionCatalogue a).riskLevel.rank)
    (h : canApprove role a = true) : canApprove role b = true := by
  revert le h
  cases role <;> cases a <;> cases b <;> decide

/-- An action without required parameters accepts the empty parameter set. -/
lemma validateActionParameters_empty {actionType : RemediationActionType}
    (h : (actionCatalogue actionType).requiredParameterNames = []) :
    validateActionParameters actionType .empty = .ok .empty := by
  cases actionType with
  | restartService => rfl
  | rollBackDeployment => rfl
  | scaleService => simp [actionCatalogue, actionDef, ActionDefinition.requiredParameterNames] at h
  | disableFeatureFlag =>
    simp [actionCatalogue, actionDef, ActionDefinition.requiredParameterNames] at h

end SentinelOps.Remediation
