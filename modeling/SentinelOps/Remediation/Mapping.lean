import SentinelOps.Remediation.FreeText
import SentinelOps.Remediation.Lifecycle

/-!
# The mapping of recommendations is total

Six conditions stand between a recommendation and a proposal. `proposalFromRca` checks them in one
order, so a blocked result names the first one that fails, and nothing in the text of a
recommendation makes a construction fail. What can still raise is the sum of the expiry:
`maps_soundly_iff` says that it does so exactly when a recommendation that meets every condition
would expire outside the range of a `datetime`.
-/

namespace SentinelOps.Remediation

/-- What the create API admits besides the recommendation. -/
structure Admitted (args : MappingArgs) : Prop where
  incident : isIncidentId args.incidentId = true
  investigation : ∀ i ∈ args.investigationId, isInvestigationId i = true
  severity : ∀ s ∈ args.incidentSeverity, s.length ≤ 16
  environment : args.targetEnvironment.length ≤ 64
  proposer : 1 ≤ args.proposedBy.length ∧ args.proposedBy.length ≤ 128

/-- What a recommendation has to meet to become a proposal. -/
inductive Condition where
  | labelMaps
  | severityEligible
  | noRequiredParameter
  | targetNamed
  | targetValid
  | targetAllowed

namespace Condition

/-- The place of a condition in the order of the checks. -/
def rank : Condition → Nat
  | labelMaps => 0
  | severityEligible => 1
  | noRequiredParameter => 2
  | targetNamed => 3
  | targetValid => 4
  | targetAllowed => 5

/-- The target a recommendation names. -/
def target (service : String) (args : MappingArgs) : ServiceTargetFields :=
  { serviceName := service, environment := args.targetEnvironment }

/-- A recommendation meets a condition; the later ones speak of the action its label maps to. -/
def Holds (r : RcaActionFields) (args : MappingArgs) : Condition → Prop
  | labelMaps => ∃ action, rcaActionMap r.actionType = some action
  | severityEligible => ∀ action ∈ rcaActionMap r.actionType, ∀ s ∈ args.incidentSeverity,
      s ∈ (actionCatalogue action).allowedSeverities
  | noRequiredParameter => ∀ action ∈ rcaActionMap r.actionType,
      (actionCatalogue action).requiredParameterNames = []
  | targetNamed => ∃ service ∈ r.targetService, service ≠ ""
  | targetValid => ∀ service ∈ r.targetService, Schema.Valid (target service args)
  | targetAllowed => ∀ action ∈ rcaActionMap r.actionType, ∀ service ∈ r.targetService,
      ∀ named : ServiceTarget, named.val = target service args → isAllowedTarget action named = true

/-- The reason of a result that a condition blocks. -/
def reason (r : RcaActionFields) (args : MappingArgs) : Condition → String
  | labelMaps => s!"RCA recommendation category {Py.repr (safeLabel r.actionType)} has no executable "
      ++ "action in the closed remediation catalogue; a human must decide"
  | severityEligible =>
      s!"incident severity {Py.repr (safeLabel (args.incidentSeverity.getD default))} is not "
        ++ s!"eligible for action {action}"
  | noRequiredParameter => s!"action {action} requires operator-supplied "
      ++ s!"parameter(s) {Py.reprList (Py.sortedStr required)} and cannot "
      ++ "be derived automatically from an RCA recommendation"
  | targetNamed => "RCA recommendation did not name a target service"
  | targetValid => s!"RCA target service {Py.repr (safeLabel service)} is not a "
      ++ "valid service target"
  | targetAllowed => s!"target service {Py.repr service} is not on the "
      ++ s!"remediation allow-list for action {action}"
where
  action := (rcaActionMap r.actionType).elim "" str
  required := (rcaActionMap r.actionType).elim [] fun a => (actionCatalogue a).requiredParameterNames
  service := r.targetService.getD ""

/-- A condition is the first one that fails. -/
def FirstFailed (r : RcaActionFields) (args : MappingArgs) (c : Condition) : Prop :=
  ¬ c.Holds r args ∧ ∀ b : Condition, b.rank < c.rank → b.Holds r args

/-- Where a condition fails, there is a first one. -/
lemma exists_firstFailed {r args} {c : Condition} (fails : ¬ c.Holds r args) :
    ∃ b : Condition, b.FirstFailed r args := by
  obtain ⟨b, failed, least⟩ := (measure rank).wf.has_min {c | ¬ c.Holds r args} ⟨c, fails⟩
  refine ⟨b, failed, fun b' earlier => ?_⟩
  by_contra fails'
  exact least b' fails' earlier

end Condition

/-- The mapping returns: a proposal when every condition holds, with the fields of its
recommendation and an expiry one lifetime away, and otherwise the reason of the first one that
fails. -/
def MapsSoundly (r : RcaRecommendedActionInput) (args : MappingArgs) : Prop :=
  (∃ p, proposalFromRca r args = .ok (.proposal p) ∧ (∀ c : Condition, c.Holds r.val args) ∧
    Schema.Valid p.val ∧ p.val.expiresAt = args.now + args.ttl ∧
    ∃ action target, rcaActionMap r.val.actionType = some action ∧
      r.val.targetService = some target.val.serviceName ∧
      target.val.environment = args.targetEnvironment ∧
      p.val = mappedFields r.val args action target) ∨
  ∃ b, ∃ c : Condition, proposalFromRca r args = .ok (.blocked b) ∧ c.FirstFailed r.val args ∧
    b.val.blockReason = c.reason r.val args


variable {r : RcaRecommendedActionInput} {args : MappingArgs}

/-- A label is kept or replaced. -/
lemma safeLabel_cases (raw : String) :
    safeLabel raw = raw ∧ raw.length ≤ 65 ∨ safeLabel raw = "<invalid-label>" := by
  have body : raw.length ≤ (if raw.toList.getLast? = some '\n' then raw.toList.dropLast
      else raw.toList).length + 1 := by
    rw [← String.length_toList]
    split
    · rw [List.length_dropLast]
      omega
    · omega
  unfold safeLabel
  dsimp only
  generalize (if raw.toList.getLast? = some '\n' then raw.toList.dropLast else raw.toList) = label
    at body ⊢
  split
  · rename_i fits
    simp only [Bool.and_eq_true, decide_eq_true_eq] at fits
    exact .inl ⟨rfl, by omega⟩
  · exact .inr rfl

/-- A rendered label is short. -/
lemma length_safeLabel_le (raw : String) : (safeLabel raw).length ≤ 65 := by
  obtain ⟨same, short⟩ | replaced := safeLabel_cases raw
  · rwa [same]
  · rw [replaced]
    decide

lemma length_str_actionType_le {a : RemediationActionType} : (str a).length ≤ 20 := by
  cases a <;> decide


/-- The rendered label of a recommendation fits into a proposal. -/
lemma length_safeLabel_input_le : (safeLabel r.val.actionType).length ≤ 64 := by
  obtain ⟨same, -⟩ | replaced := safeLabel_cases r.val.actionType
  · rw [same]
    exact r.valid.1.2
  · rw [replaced]
    decide

/-- A short reason can be recorded. -/
lemma blockedProposal_returns (h : Admitted args) {reason mapped} (short : reason.length ≤ 500) :
    ∃ b, blockedProposal args (safeLabel r.val.actionType) reason mapped = .ok (.blocked b) ∧
      b.val.blockReason = reason := by
  unfold blockedProposal constructOr
  split
  · rename_i b built
    rw [construct_eq_some] at built
    exact ⟨b, rfl, by rw [← built]⟩
  · rename_i refused
    rw [construct_eq_none] at refused
    exact absurd ⟨⟨isRemediationId_new, h.incident, h.investigation⟩, length_safeLabel_input_le,
      short⟩ refused

/-- The required parameters of an action, at most one, are rendered in a few characters. -/
lemma length_required_le {a : RemediationActionType} :
    (Py.reprList (Py.sortedStr (actionCatalogue a).requiredParameterNames)).toList.length ≤ 12 := by
  have few : (actionCatalogue a).requiredParameterNames = [] ∨
      ∃ x, (actionCatalogue a).requiredParameterNames = [x] := by
    cases a with
    | scaleService => exact .inr ⟨_, rfl⟩
    | disableFeatureFlag => exact .inr ⟨_, rfl⟩
    | _ => exact .inl rfl
  have sorted : Py.sortedStr (actionCatalogue a).requiredParameterNames =
      (actionCatalogue a).requiredParameterNames := by
    obtain none | ⟨x, one⟩ := few
    · rw [none, Py.sortedStr, List.mergeSort_nil]
    · rw [one, Py.sortedStr, List.mergeSort_singleton]
  rw [sorted]
  cases a <;> decide

/-- A rendered and quoted label is short. -/
lemma length_repr_safeLabel_le {s : String} : (Py.repr (safeLabel s)).toList.length ≤ 262 := by
  have quoted := Py.length_repr_le (s := safeLabel s)
  have label := length_safeLabel_le s
  rw [String.length_toList]
  omega

/-- A reason fits into a blocked result. -/
lemma Condition.length_reason_le {c : Condition}
    (short : c = .targetAllowed → ∀ s ∈ r.val.targetService, s.length ≤ 63) :
    (c.reason r.val args).length ≤ 500 := by
  have category := length_repr_safeLabel_le (s := r.val.actionType)
  have severity := length_repr_safeLabel_le (s := args.incidentSeverity.getD default)
  have service := length_repr_safeLabel_le (s := reason.service r.val)
  have named : c = .targetAllowed → (Py.repr (reason.service r.val)).toList.length ≤ 254 := by
    intro last
    have bound : (reason.service r.val).length ≤ 63 := by
      unfold reason.service
      cases some_service : r.val.targetService with
      | none => decide
      | some s => exact short last s some_service
    have quoted := Py.length_repr_le (s := reason.service r.val)
    rw [String.length_toList]
    omega
  have action : (reason.action r.val).toList.length ≤ 20 := by
    unfold reason.action
    cases rcaActionMap r.val.actionType with
    | none => decide
    | some a =>
      rw [String.length_toList]
      exact length_str_actionType_le
  have required : (Py.reprList (Py.sortedStr (reason.required r.val))).toList.length ≤ 12 := by
    unfold reason.required
    cases rcaActionMap r.val.actionType with
    | none =>
      rw [Option.elim_none, Py.sortedStr, List.mergeSort_nil]
      decide
    | some a => exact length_required_le
  rw [← String.length_toList]
  unfold reason
  cases c with
  | targetAllowed =>
    have named := named rfl
    simp only [toString, String.toList_append, List.length_append, String.reduceToList,
      List.length_cons, List.length_nil]
    omega
  | _ =>
    simp only [toString, String.toList_append, List.length_append, String.reduceToList,
      List.length_cons, List.length_nil]
    omega

/-- The mapping is blocked by the first condition that fails. -/
lemma proposalFromRca_failed {c : Condition} (first : c.FirstFailed r.val args) :
    ∃ mapped, proposalFromRca r args =
      blockedProposal args (safeLabel r.val.actionType) (c.reason r.val args) mapped := by
  obtain ⟨fails, earlier⟩ := first
  cases mapped : rcaActionMap r.val.actionType with
  | none =>
    have unmapped : ¬ Condition.labelMaps.Holds r.val args := by
      rintro ⟨action, found⟩
      rw [mapped] at found
      cases found
    have label : c = .labelMaps := by
      cases c with
      | labelMaps => rfl
      | _ => exact absurd (earlier .labelMaps (by decide)) unmapped
    subst label
    refine ⟨none, ?_⟩
    unfold proposalFromRca Condition.reason
    simp only [mapped]
  | some action =>
    refine ⟨some action, ?_⟩
    unfold proposalFromRca Condition.reason Condition.reason.action Condition.reason.required
      Condition.reason.service
    simp only [mapped, Option.elim_some]
    -- the conditions are tried in the order of their ranks
    have severity (past : 1 < c.rank) : ¬ ∃ s ∈ args.incidentSeverity,
        s ∉ (actionCatalogue action).allowedSeverities := by
      rintro ⟨s, given, ineligible⟩
      exact ineligible (earlier .severityEligible past action mapped s given)
    have parameter (past : 2 < c.rank) : ¬ (actionCatalogue action).requiredParameterNames ≠ [] :=
      not_not.mpr (earlier .noRequiredParameter past action mapped)
    have named (past : 3 < c.rank) : ∃ service, r.val.targetService = some service ∧ service ≠ "" :=
      earlier .targetNamed past
    have valid (past : 4 < c.rank) : ∀ service, r.val.targetService = some service →
        Schema.Valid (Condition.target service args) :=
      earlier .targetValid past
    cases c with
    | labelMaps => exact absurd ⟨action, mapped⟩ fails
    | severityEligible =>
      have ineligible : ∃ s ∈ args.incidentSeverity,
          s ∉ (actionCatalogue action).allowedSeverities := by
        by_contra none
        refine fails fun action' found s given => ?_
        cases mapped.symm.trans found
        by_contra ineligible
        exact none ⟨s, given, ineligible⟩
      rw [if_pos ineligible]
    | noRequiredParameter =>
      have required : (actionCatalogue action).requiredParameterNames ≠ [] := by
        intro none
        refine fails fun action' found => ?_
        cases mapped.symm.trans found
        exact none
      rw [if_neg (severity (by decide)), if_pos required]
    | targetNamed =>
      rw [if_neg (severity (by decide)), if_neg (parameter (by decide))]
      cases some_service : r.val.targetService with
      | none => rfl
      | some service =>
        have empty : service = "" := by
          by_contra nonempty
          exact fails ⟨service, some_service, nonempty⟩
        simp only [if_pos empty]
    | targetValid =>
      obtain ⟨service, some_service, nonempty⟩ := named (by decide)
      rw [if_neg (severity (by decide)), if_neg (parameter (by decide))]
      simp only [some_service, if_neg nonempty]
      have refused : construct (Condition.target service args) = none := by
        rw [construct_eq_none]
        intro accepted
        refine fails fun service' found => ?_
        cases some_service.symm.trans found
        exact accepted
      unfold Condition.target at refused
      simp only [refused, Option.getD_some]
    | targetAllowed =>
      obtain ⟨service, some_service, nonempty⟩ := named (by decide)
      rw [if_neg (severity (by decide)), if_neg (parameter (by decide))]
      simp only [some_service, if_neg nonempty]
      let target : ServiceTarget := ⟨_, valid (by decide) service some_service⟩
      have built : construct (Condition.target service args) = some target :=
        construct_eq_some.mpr rfl
      have forbidden : ¬ isAllowedTarget action target = true := by
        intro allowed
        refine fails fun action' found service' named target' same => ?_
        cases mapped.symm.trans found
        cases some_service.symm.trans named
        rwa [show target' = target from Validated.ext same]
      unfold Condition.target at built
      simp only [built, if_neg forbidden, Option.getD_some]

/-- The fields of a mapped proposal are accepted. -/
lemma mappedFields_valid (h : Admitted args) (positive : 0 < args.ttl) {action target}
    (mapped : rcaActionMap r.val.actionType = some action)
    (parameters : (actionCatalogue action).requiredParameterNames = [])
    (allowed : isAllowedTarget action target = true) :
    Schema.Valid (mappedFields r.val args action target) := by
  have described : (actionCatalogue action).description.length ≤ 2000 := by
    rw [← String.length_toList]
    cases action <;>
      simp only [actionCatalogue, actionDef, String.toList_append, List.length_append,
        String.reduceToList, List.length_cons, List.length_nil] <;> decide
  have accepted : parametersOk action .empty = true := by
    unfold parametersOk
    rw [validateActionParameters_empty parameters]
    rfl
  have expires : args.now < args.now + args.ttl := by linarith
  simp only [Schema.Valid, mappedFields]
  exact ⟨⟨isRemediationId_new, h.incident, h.investigation⟩, h.proposer,
    ⟨length_safeLabel_input_le, length_proposalReason_le, described⟩, allowed, accepted, expires⟩

/-- A recommendation that meets every condition is a proposal, if it has an expiry. -/
lemma proposalFromRca_mapped (h : Admitted args) (positive : 0 < args.ttl)
    (all : ∀ c : Condition, c.Holds r.val args) :
    ∃ action target, rcaActionMap r.val.actionType = some action ∧
      r.val.targetService = some target.val.serviceName ∧
      target.val.environment = args.targetEnvironment ∧
      ∃ p : RemediationProposal, p.val = mappedFields r.val args action target ∧
        proposalFromRca r args = if IsDatetime (args.now + args.ttl) then .ok (.proposal p)
          else .error ⟨.other, "date value out of range"⟩ := by
  obtain ⟨action, mapped⟩ := all .labelMaps
  obtain ⟨service, some_service, nonempty⟩ :
      ∃ service, r.val.targetService = some service ∧ service ≠ "" := all .targetNamed
  have eligible : ¬ ∃ s ∈ args.incidentSeverity,
      s ∉ (actionCatalogue action).allowedSeverities := by
    rintro ⟨s, given, ineligible⟩
    exact ineligible (all .severityEligible action mapped s given)
  have parameters := all .noRequiredParameter action mapped
  let target : ServiceTarget := ⟨_, all .targetValid service some_service⟩
  have built : construct (Condition.target service args) = some target := construct_eq_some.mpr rfl
  have allowed := all .targetAllowed action mapped service some_service target rfl
  let p : RemediationProposal := ⟨_, mappedFields_valid h positive mapped parameters allowed⟩
  have constructed : construct (mappedFields r.val args action target) = some p :=
    construct_eq_some.mpr rfl
  refine ⟨action, target, mapped, some_service, rfl, p, rfl, ?_⟩
  unfold Condition.target at built
  unfold proposalFromRca
  simp only [mapped, if_neg eligible, if_neg (not_not.mpr parameters), some_service,
    if_neg nonempty, built, if_pos allowed, constructed]

/-- The mapping of an admitted recommendation with a positive lifetime is sound unless it meets
every condition and its expiry is no `datetime`; then it raises. -/
theorem maps_soundly_iff (h : Admitted args) (positive : 0 < args.ttl) :
    MapsSoundly r args ↔
      ((∀ c : Condition, c.Holds r.val args) → IsDatetime (args.now + args.ttl)) := by
  by_cases all : ∀ c : Condition, c.Holds r.val args
  · obtain ⟨action, target, mapped, named, environment, p, fields, result⟩ :=
      proposalFromRca_mapped h positive all
    constructor
    · rintro (⟨_, returned, -⟩ | ⟨_, _, returned, -⟩) _
      all_goals
        by_contra range
        rw [result, if_neg range] at returned
        cases returned
    · intro range
      rw [if_pos (range all)] at result
      exact .inl ⟨p, result, all, p.valid, by rw [fields]; rfl, action, target, mapped, named,
        environment, fields⟩
  · refine ⟨fun _ all' => absurd all' all, fun _ => ?_⟩
    push Not at all
    obtain ⟨_, fails⟩ := all
    obtain ⟨c, first⟩ := Condition.exists_firstFailed fails
    obtain ⟨mapped, result⟩ := proposalFromRca_failed first
    have short : c = .targetAllowed → ∀ s ∈ r.val.targetService, s.length ≤ 63 := by
      rintro rfl s named
      exact (first.2 .targetValid (by decide) s named).2.1
    obtain ⟨b, built, reason⟩ := blockedProposal_returns h (Condition.length_reason_le short)
    exact .inr ⟨b, c, result.trans built, first, reason⟩

/-- A request to map a recommendation, with the given lifetime. -/
def mappingArgs (ttl : Int) : MappingArgs where
  incidentId := "inc_c0ffee"
  now := 0
  ttl
  token := Token.digits 0 0

/-- The request is admitted. -/
lemma mappingArgs_admitted {ttl} : Admitted (mappingArgs ttl) where
  incident := show isIncidentId "inc_c0ffee" = true by decide
  investigation := by simp [mappingArgs]
  severity := by simp [mappingArgs]
  environment := show "development".length ≤ 64 by decide
  proposer := show 1 ≤ "rca-agent".length ∧ "rca-agent".length ≤ 128 by decide

/-- With the default lifetime the restart is proposed. -/
theorem maps_soundly_hour : MapsSoundly restartAdvice (mappingArgs (seconds 3600)) :=
  (maps_soundly_iff mappingArgs_admitted (by decide)).mpr fun _ =>
    ⟨by decide, by decide⟩

/-- `timedelta.max`. -/
def maxTimedelta : Int := 86399999999999999999

/-- With the longest lifetime there is, the mapping raises. -/
theorem mapping_raises : Admitted (mappingArgs maxTimedelta) ∧ 0 < (mappingArgs maxTimedelta).ttl ∧
    ¬ MapsSoundly restartAdvice (mappingArgs maxTimedelta) := by
  have raised : (proposalFromRca restartAdvice (mappingArgs maxTimedelta)).isOk = false := by
    decide +kernel
  refine ⟨mappingArgs_admitted, by decide, ?_⟩
  rintro (⟨_, returned, -⟩ | ⟨_, _, returned, -⟩)
  all_goals
    rw [returned] at raised
    cases raised

end SentinelOps.Remediation
