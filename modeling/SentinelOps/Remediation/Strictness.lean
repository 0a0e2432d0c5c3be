import SentinelOps.Remediation.Policy

/-!
# A stricter policy allows less

Two evaluations of one proposal at one time, the second with a stricter configuration and more
history. Each rule that reads either of them passes in the second only if it passes in the first;
the other rules read neither. `policy_monotone` assembles them.
-/

namespace SentinelOps.Remediation

/-- A configuration that permits no more than another. -/
structure PolicyConfig.Stricter (config' config : PolicyConfig) : Prop where
  actions : config'.eligibleActions ⊆ config.eligibleActions
  environments : config'.allowedEnvironments ⊆ config.allowedEnvironments
  risk : config'.maxAllowedRisk.rank ≤ config.maxAllowedRisk.rank
  blastRadius : config'.maxBlastRadius ≤ config.maxBlastRadius
  severity : config.requireKnownIncidentSeverity = true → config'.requireKnownIncidentSeverity = true

/-- A history with what another knows, its last completion no earlier. -/
structure RemediationHistorySnapshot.Extends (h' h : RemediationHistorySnapshot) : Prop where
  active : h.activeExists = true → h'.activeExists = true
  completed : ∀ last ∈ h.lastCompleted, ∃ last' ∈ h'.lastCompleted, last ≤ last'

variable {config config' : PolicyConfig} {proposal : RemediationProposal} {ctx : PolicyContext}
  {h' : RemediationHistorySnapshot}

/-- Removing actions disables no violation. -/
lemma actionRule_mono (ctx ctx' : PolicyContext) (stricter : config'.Stricter config)
    (passes : actionRule proposal ctx' config' = []) :
    actionRule proposal ctx config = [] := by
  unfold actionRule at *
  cases found : getActionDefinition proposal.val.actionType with
  | none => simp [found] at passes
  | some definition =>
    simp only [found, ite_eq_left_iff, reduceCtorEq, imp_false, not_not] at passes ⊢
    exact stricter.actions passes

/-- Removing environments disables no violation. -/
lemma environmentRule_mono (ctx ctx' : PolicyContext) (stricter : config'.Stricter config)
    (passes : environmentRule proposal ctx' config' = []) :
    environmentRule proposal ctx config = [] := by
  simp only [environmentRule, ite_eq_left_iff, reduceCtorEq, imp_false, not_not] at passes ⊢
  exact stricter.environments passes

/-- Requiring a known severity disables no violation. -/
lemma severityRule_mono (stricter : config'.Stricter config)
    (passes : severityRule proposal { ctx with history := h' } config' = []) :
    severityRule proposal ctx config = [] := by
  unfold severityRule at *
  cases found : getActionDefinition proposal.val.actionType with
  | none => rfl
  | some definition =>
    simp only [found] at passes ⊢
    cases known : ctx.incidentSeverity with
    | none =>
      simp only [known, ite_eq_right_iff, reduceCtorEq, imp_false] at passes ⊢
      exact fun required => passes (stricter.severity required)
    | some severity =>
      simp only [known] at passes ⊢
      exact passes

/-- Lowering a ceiling disables no violation. -/
lemma riskRule_mono (ctx ctx' : PolicyContext) (stricter : config'.Stricter config)
    (passes : riskRule proposal ctx' config' = []) :
    riskRule proposal ctx config = [] := by
  unfold riskRule at *
  cases found : getActionDefinition proposal.val.actionType with
  | none => rfl
  | some definition =>
    simp only [found, List.append_eq_nil_iff, ite_eq_right_iff, reduceCtorEq, imp_false,
      not_lt] at passes ⊢
    obtain ⟨risk, blast⟩ := passes
    refine ⟨risk.trans stricter.risk, blast.trans ?_⟩
    exact_mod_cast stricter.blastRadius

/-- Moving the last completion later does not end a cooldown. -/
lemma cooldownActive_mono {definition now last last'} (later : last ≤ last')
    (running : cooldownActive definition now last = true) :
    cooldownActive definition now last' = true := by
  simp only [cooldownActive, decide_eq_true_eq] at running ⊢
  exact (sub_le_sub_left later now).trans_lt running

/-- Adding to the history disables no violation. -/
lemma cooldownRule_mono (config config' : PolicyConfig) (more : h'.Extends ctx.history)
    (passes : cooldownRule proposal { ctx with history := h' } config' = []) :
    cooldownRule proposal ctx config = [] := by
  rw [cooldownRule_eq_nil] at *
  obtain ⟨inactive, cooled⟩ := passes
  constructor
  · by_contra active
    rw [more.active (by simpa using active)] at inactive
    cases inactive
  · intro last completed
    obtain ⟨last', completed', later⟩ := more.completed last completed
    have done := cooled last' completed'
    by_contra running
    rw [cooldownActive_mono later (by simpa using running)] at done
    cases done

/-- A rule that passes under the stricter policy passes under the other. -/
lemma rules_mono (stricter : config'.Stricter config) (more : h'.Extends ctx.history)
    {r : String × Rule} (member : r ∈ rules)
    (passes : r.2 proposal { ctx with history := h' } config' = []) :
    r.2 proposal ctx config = [] := by
  simp only [rules, List.mem_cons, List.not_mem_nil, or_false] at member
  rcases member with rfl | rfl | rfl | rfl | rfl | rfl | rfl | rfl | rfl
  · exact passes
  · exact actionRule_mono ctx ctx stricter passes
  · exact passes
  · exact environmentRule_mono ctx ctx stricter passes
  · exact severityRule_mono stricter passes
  · exact passes
  · exact riskRule_mono ctx ctx stricter passes
  · exact passes
  · exact cooldownRule_mono config config' more passes

/-- The engine allows exactly when each of its nine rules passes, nothing stricter turns a deny into
an allow, and a proposal that was just proposed goes to `PENDING_APPROVAL` on an allow and to
`BLOCKED` on a deny. -/
theorem policy_monotone (config : PolicyConfig) (proposal : RemediationProposal)
    (ctx : PolicyContext) :
    (rules.length = 9 ∧ ((evaluate config proposal ctx).outcome = .allow ↔
      ∀ r ∈ rules, r.2 proposal ctx config = [])) ∧
    (∀ (config' : PolicyConfig) (h' : RemediationHistorySnapshot),
      config'.Stricter config → h'.Extends ctx.history →
      (evaluate config proposal ctx).outcome = .deny →
      (evaluate config' proposal { ctx with history := h' }).outcome = .deny) ∧
    (proposal.val.status = .proposed → applyPolicyDecision proposal (evaluate config proposal ctx) =
      .ok (proposal.withStatus (if (evaluate config proposal ctx).outcome = .allow
        then .pendingApproval else .blocked))) := by
  refine ⟨⟨rfl, evaluate_allow_iff.trans allViolations_eq_nil⟩, ?_, applyPolicyDecision_proposed⟩
  intro config' h' stricter more denied
  cases outcome : (evaluate config' proposal { ctx with history := h' }).outcome with
  | deny => rfl
  | allow =>
    have all := allViolations_eq_nil.mp (evaluate_allow_iff.mp outcome)
    have allowed : (evaluate config proposal ctx).outcome = .allow :=
      evaluate_allow_iff.mpr (allViolations_eq_nil.mpr fun r member =>
        rules_mono stricter more member (all r member))
    cases denied.symm.trans allowed

end SentinelOps.Remediation
