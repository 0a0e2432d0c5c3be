import SentinelOps.Remediation.Catalogue

/-!
# Proposals, approvals and the RCA mapping

A `RemediationProposal` is intent: an action of the catalogue against an allow-listed target with
parameters the catalogue accepts. All of that is in its schema, so a proposal that breaks it cannot
be built, and `RemediationProposal.withStatus` keeps it. `proposalFromRca` is the only way a
recommendation becomes a proposal; every recommendation it cannot map becomes a `BlockedProposal`.
`authorizeExecution` is the guard that an execution has a matching human approval.
-/

namespace SentinelOps.Remediation

/-- The fields of a proposal. -/
structure ProposalFields where
  remediationId : String
  incidentId : String
  investigationId : Option String
  trigger : RemediationTrigger
  proposedBy : String
  actionType : RemediationActionType
  target : ServiceTarget
  parameters : Dict String Scalar
  riskLevel : RiskLevel
  sourceRecommendation : String
  reason : String
  expectedEffect : String
  evidenceReferences : List String
  status : RemediationStatus
  createdAt : Instant
  expiresAt : Instant

/-- The parameters satisfy the catalogue schema of the action. -/
def parametersOk (actionType : RemediationActionType) (parameters : Dict String Scalar) : Bool :=
  (validateActionParameters actionType parameters).isOk

instance : Schema ProposalFields where
  Valid p :=
    (isRemediationId p.remediationId = true ∧ isIncidentId p.incidentId = true ∧
      ∀ i ∈ p.investigationId, isInvestigationId i = true) ∧
    (1 ≤ p.proposedBy.length ∧ p.proposedBy.length ≤ 128) ∧
    (p.sourceRecommendation.length ≤ 64 ∧ p.reason.length ≤ 4000 ∧
      p.expectedEffect.length ≤ 2000) ∧
    isAllowedTarget p.actionType p.target = true ∧
    parametersOk p.actionType p.parameters = true ∧
    p.createdAt < p.expiresAt
  decidable _ := inferInstanceAs (Decidable (_ ∧ _ ∧ _ ∧ _ ∧ _ ∧ _))

/-- A strongly typed, immutable remediation intent. -/
abbrev RemediationProposal := Validated ProposalFields

namespace RemediationProposal

/-- `proposal.model_copy(update={"status": status})`. -/
def withStatus (p : RemediationProposal) (status : RemediationStatus) : RemediationProposal :=
  p.modelCopy (fun f => { f with status }) fun _ h => h

@[simp] lemma val_withStatus {p : RemediationProposal} {s} :
    (p.withStatus s).val = { p.val with status := s } := rfl

@[simp] lemma withStatus_withStatus {p : RemediationProposal} {s t} :
    (p.withStatus s).withStatus t = p.withStatus t := rfl

/-- The target of a proposal is allow-listed for its action. -/
lemma allowed {p : RemediationProposal} : isAllowedTarget p.val.actionType p.val.target = true :=
  p.valid.2.2.2.1

end RemediationProposal

/-- The fields of a human decision. -/
structure ApprovalFields where
  approvalId : String
  remediationId : String
  decision : ApprovalDecision
  approverIdentity : String
  approverRole : ApproverRole
  reason : String
  decidedAt : Instant

instance : Schema ApprovalFields where
  Valid a := isApprovalId a.approvalId = true ∧ isRemediationId a.remediationId = true ∧
    (1 ≤ a.approverIdentity.length ∧ a.approverIdentity.length ≤ 128) ∧
    Py.strip a.approverIdentity ≠ "" ∧ a.reason.length ≤ 1000
  decidable _ := inferInstanceAs (Decidable (_ ∧ _ ∧ _ ∧ _ ∧ _))

/-- A recorded human decision; it always names an approver. -/
abbrev RemediationApproval := Validated ApprovalFields

/-- The fields of a blocked mapping result. -/
structure BlockedFields where
  remediationId : String
  incidentId : String
  investigationId : Option String
  sourceRecommendation : String
  mappedActionType : Option RemediationActionType
  blockReason : String
  createdAt : Instant

instance : Schema BlockedFields where
  Valid b := (isRemediationId b.remediationId = true ∧ isIncidentId b.incidentId = true ∧
      ∀ i ∈ b.investigationId, isInvestigationId i = true) ∧
    b.sourceRecommendation.length ≤ 64 ∧ b.blockReason.length ≤ 500
  decidable _ := inferInstanceAs (Decidable (_ ∧ _ ∧ _))

/-- The fail-closed result of the mapping. -/
abbrev BlockedProposal := Validated BlockedFields

/-- `MappingResult`. -/
inductive MappingResult where
  | proposal (p : RemediationProposal)
  | blocked (b : BlockedProposal)

/-- The fields of an RCA recommendation that the controller reads. -/
structure RcaActionFields where
  actionType : String
  targetService : Option String := none
  description : String := ""
  rationale : String := ""
  evidenceIds : List String := []

instance : Schema RcaActionFields where
  Valid r := (1 ≤ r.actionType.length ∧ r.actionType.length ≤ 64) ∧
    (∀ s ∈ r.targetService, s.length ≤ 128) ∧
    r.description.length ≤ 4000 ∧ r.rationale.length ≤ 4000
  decidable _ := inferInstanceAs (Decidable (_ ∧ _ ∧ _ ∧ _))

/-- The slice of an RCA recommendation that the controller consumes. -/
abbrev RcaRecommendedActionInput := Validated RcaActionFields

/-- `_RCA_ACTION_MAP.get`. -/
def rcaActionMap (label : String) : Option RemediationActionType :=
  if label = "RESTART_SERVICE" then some .restartService
  else if label = "ROLL_BACK_DEPLOYMENT" then some .rollBackDeployment
  else if label = "SCALE_SERVICE" then some .scaleService
  else none

/-- `[A-Za-z0-9_.:-]`. -/
def isLabelChar (c : Char) : Bool :=
  c.isAlphanum || c == '_' || c == '.' || c == ':' || c == '-'

/-- `_safe_label`: the `$` of `re` also matches before a final newline. -/
def safeLabel (raw : String) : String :=
  let body := if raw.toList.getLast? = some '\n' then raw.toList.dropLast else raw.toList
  if body.all isLabelChar && 1 ≤ body.length && body.length ≤ 64 then raw else "<invalid-label>"

/-- What a call of `proposal_from_rca` is given besides the recommendation. -/
structure MappingArgs where
  incidentId : String
  investigationId : Option String := none
  incidentSeverity : Option String := none
  targetEnvironment : String := "development"
  proposedBy : String := "rca-agent"
  now : Instant
  ttl : Int := seconds 3600
  token : Token

/-- The inner function `blocked`: its own construction may be refused. -/
def blockedProposal (args : MappingArgs) (label reason : String)
    (mapped : Option RemediationActionType) : Except Error MappingResult :=
  MappingResult.blocked <$> constructOr (α := BlockedFields) "BlockedProposal"
    { remediationId := newRemediationId args.token
      incidentId := args.incidentId
      investigationId := args.investigationId
      sourceRecommendation := label
      mappedActionType := mapped
      blockReason := reason
      createdAt := args.now }

/-- `(rationale.strip() or description.strip())[:4000] or <default>`: the prose of a proposal. -/
def proposalReason (r : RcaActionFields) : String :=
  Py.orElse (Py.takeFirst 4000 (Py.orElse (Py.strip r.rationale) (Py.strip r.description)))
    "Derived from a Phase 4 RCA recommendation."

/-- The fields `proposal_from_rca` gives the proposal it constructs. -/
def mappedFields (r : RcaActionFields) (args : MappingArgs) (actionType : RemediationActionType)
    (target : ServiceTarget) : ProposalFields where
  remediationId := newRemediationId args.token
  incidentId := args.incidentId
  investigationId := args.investigationId
  trigger := .rcaRecommendation
  proposedBy := args.proposedBy
  actionType
  target
  parameters := .empty
  riskLevel := (actionCatalogue actionType).riskLevel
  sourceRecommendation := safeLabel r.actionType
  reason := proposalReason r
  expectedEffect := (actionCatalogue actionType).description
  evidenceReferences := r.evidenceIds
  status := .proposed
  createdAt := args.now
  expiresAt := args.now + args.ttl

/-- The limits of a `datetime`: the years 1 to 9999. -/
def IsDatetime (t : Instant) : Prop := -62135596800000000 ≤ t ∧ t < 253402300800000000

instance {t} : Decidable (IsDatetime t) := inferInstanceAs (Decidable (_ ∧ _))

/-- `proposal_from_rca`: the deterministic, fail-closed map from a recommendation to a proposal. -/
def proposalFromRca (recommendation : RcaRecommendedActionInput) (args : MappingArgs) :
    Except Error MappingResult :=
  let r := recommendation.val
  let label := safeLabel r.actionType
  match rcaActionMap r.actionType with
  | none =>
    blockedProposal args label (s!"RCA recommendation category {Py.repr label} has no executable "
      ++ "action in the closed remediation catalogue; a human must decide") none
  | some actionType =>
    let definition := actionCatalogue actionType
    if ∃ s ∈ args.incidentSeverity, s ∉ definition.allowedSeverities then
      blockedProposal args label
        (s!"incident severity {Py.repr (safeLabel (args.incidentSeverity.getD default))} is not "
          ++ s!"eligible for action {str actionType}") (some actionType)
    else if definition.requiredParameterNames ≠ [] then
      blockedProposal args label (s!"action {str actionType} requires operator-supplied "
        ++ s!"parameter(s) {Py.reprList (Py.sortedStr definition.requiredParameterNames)} and cannot "
        ++ "be derived automatically from an RCA recommendation") (some actionType)
    else
      match r.targetService with
      | none =>
        blockedProposal args label "RCA recommendation did not name a target service"
          (some actionType)
      | some service =>
        if service = "" then
          blockedProposal args label "RCA recommendation did not name a target service"
            (some actionType)
        else
          match construct (α := ServiceTargetFields)
            { serviceName := service, environment := args.targetEnvironment } with
          | none =>
            blockedProposal args label (s!"RCA target service {Py.repr (safeLabel service)} is not a "
              ++ "valid service target") (some actionType)
          | some target =>
            if isAllowedTarget actionType target = true then
              -- the sum of the expiry is computed before the construction, outside what is caught
              if IsDatetime (args.now + args.ttl) then
                match construct (mappedFields r args actionType target) with
                | some p => .ok (.proposal p)
                | none =>
                  blockedProposal args label ("proposal construction failed catalogue/target "
                    ++ "validation (ValidationError)") (some actionType)
              else .error ⟨.other, "date value out of range"⟩
            else
              blockedProposal args label (s!"target service {Py.repr service} is not on the "
                ++ s!"remediation allow-list for action {str actionType}") (some actionType)

/-- `authorize_execution`: approved, with a matching, affirmative human decision. -/
def authorizeExecution (proposal : RemediationProposal) (approval : Option RemediationApproval) :
    Except Error Unit := do
  let p := proposal.val
  ensure (p.status = .approved)
    ⟨.approval, s!"remediation {p.remediationId} is {str p.status}, not APPROVED"⟩
  match approval with
  | none => .error ⟨.approval, s!"remediation {p.remediationId} has no recorded approval"⟩
  | some a => do
    ensure (a.val.remediationId = p.remediationId)
      ⟨.approval, s!"approval {a.val.approvalId} is for a different remediation"⟩
    ensure (a.val.decision = .approve)
      ⟨.approval, s!"approval {a.val.approvalId} is a {str a.val.decision}, not an APPROVE"⟩

/-- A blocked result is never a proposal. -/
lemma blockedProposal_ne {args label reason mapped p} :
    blockedProposal args label reason mapped ≠ .ok (.proposal p) := by
  unfold blockedProposal
  intro h
  obtain ⟨b, _, e⟩ := Except.map_eq_ok.mp h
  cases e

/-- What is known of a proposal the mapping returns: the fields it was built from, an action the
label maps to, an eligible severity and an allow-listed target. -/
lemma proposalFromRca_proposal {r args p} (h : proposalFromRca r args = .ok (.proposal p)) :
    ∃ actionType target, rcaActionMap r.val.actionType = some actionType ∧
      (∀ s ∈ args.incidentSeverity, s ∈ (actionCatalogue actionType).allowedSeverities) ∧
      isAllowedTarget actionType target = true ∧
      r.val.targetService = some target.val.serviceName ∧
      target.val.environment = args.targetEnvironment ∧
      p.val = mappedFields r.val args actionType target := by
  unfold proposalFromRca at h
  cases hm : rcaActionMap r.val.actionType with
  | none => exact absurd (by simpa [hm] using h) blockedProposal_ne
  | some actionType =>
    simp only [hm] at h
    split at h
    · exact absurd h blockedProposal_ne
    rename_i hsev
    split at h
    · exact absurd h blockedProposal_ne
    split at h
    · exact absurd h blockedProposal_ne
    rename_i service hservice
    split at h
    · exact absurd h blockedProposal_ne
    split at h
    · exact absurd h blockedProposal_ne
    rename_i target htarget
    split at h
    · rename_i hallowed
      split at h
      · split at h
        · rename_i q hq
          cases h
          rw [construct_eq_some] at htarget
          rw [construct_eq_some] at hq
          refine ⟨actionType, target, rfl, ?_, hallowed, ?_, ?_, hq.symm⟩
          · intro s hs
            by_contra hn
            exact hsev ⟨s, hs, hn⟩
          · rw [hservice, ← htarget]
          · rw [← htarget]
        · exact absurd h blockedProposal_ne
      · cases h
    · exact absurd h blockedProposal_ne

/-- A mapped proposal starts in `PROPOSED`. -/
lemma proposalFromRca_status {r args p} (h : proposalFromRca r args = .ok (.proposal p)) :
    p.val.status = .proposed := by
  obtain ⟨_, _, _, _, _, _, _, e⟩ := proposalFromRca_proposal h
  rw [e]
  rfl

/-- A passed execution guard means the proposal is approved by a matching decision. -/
lemma authorizeExecution_ok {p a u} (h : authorizeExecution p a = .ok u) :
    p.val.status = .approved ∧
      ∃ b, a = some b ∧ b.val.remediationId = p.val.remediationId ∧ b.val.decision = .approve := by
  unfold authorizeExecution at h
  obtain ⟨_, h1, h⟩ := Except.bind_eq_ok.mp h
  rw [ensure_eq_ok] at h1
  cases a with
  | none => cases h
  | some b =>
    obtain ⟨_, h2, h⟩ := Except.bind_eq_ok.mp h
    rw [ensure_eq_ok] at h2 h
    exact ⟨h1, b, rfl, h2, h⟩

end SentinelOps.Remediation
