import SentinelOps.Rca.EvidenceTools

/-!
# What the evidence tools take of the budget

The tools that return a list honour the budget, the four that return one item do not look at it.
`Frugal` is what all of them keep to: a call may exceed the budget only when it starts with nothing
left, and then by one item.
-/

namespace SentinelOps.Rca

variable {β : Type}

/-- A tool call issues at least as many ids as it returns items, at most one of them beyond the
budget and that only when it starts with an exhausted one. -/
structure FrugalCall (ctx : ToolContext) (result : ToolResult) (ctx' : ToolContext) : Prop where
  capacity : ctx'.maxEvidenceItems = ctx.maxEvidenceItems
  returned : ctx.issued + result.evidence.length ≤ ctx'.issued
  bounded : ctx'.issued ≤ max (ctx.issued + 1) ctx.maxEvidenceItems

/-- Every call of a registry is frugal, and the call for the incident issues at most one id. -/
structure Frugal (registry : ToolRegistry β) : Prop where
  call : ∀ name answers arguments ctx, FrugalCall ctx
    ((registry name).run name answers arguments ctx).1
    ((registry name).run name answers arguments ctx).2
  incident : ∀ answers arguments ctx,
    ((registry .getIncident).run .getIncident answers arguments ctx).2.issued ≤ ctx.issued + 1

/-- A call that returns nothing and issues nothing is frugal. -/
lemma FrugalCall.none {ctx : ToolContext} {result : ToolResult} (h : result.evidence = []) :
    FrugalCall ctx result ctx where
  capacity := rfl
  returned := by simp [h]
  bounded := by omega

/-- What a `_run` leaves of the context and what it returns. -/
def FrugalRun (ctx : ToolContext) (r : Except ToolRaised ToolResult × ToolContext) : Prop :=
  r.2.maxEvidenceItems = ctx.maxEvidenceItems ∧ ctx.issued ≤ r.2.issued ∧
    r.2.issued ≤ max (ctx.issued + 1) ctx.maxEvidenceItems ∧
    ∀ result, r.1 = .ok result → ctx.issued + result.evidence.length ≤ r.2.issued

/-- The wrapper of a frugal `_run` is frugal. -/
lemma frugalCall_run {tool : EvidenceTool β} {name answers arguments ctx}
    (h : ∀ request, FrugalRun ctx (tool.run_ answers request ctx)) :
    FrugalCall ctx (tool.run name answers arguments ctx).1
      (tool.run name answers arguments ctx).2 := by
  unfold EvidenceTool.run
  split
  · exact .none rfl
  · split
    · exact .none rfl
    · rename_i request _
      obtain ⟨capacity, grows, bounded, returned⟩ := h request
      split
      · rename_i result ctx' e
        rw [e] at capacity grows bounded returned
        exact ⟨capacity, returned result rfl, bounded⟩
      · rename_i code message ctx' e
        rw [e] at capacity grows bounded
        exact ⟨capacity, grows, bounded⟩
      · rename_i ctx' e
        rw [e] at capacity grows bounded
        exact ⟨capacity, grows, bounded⟩

/-- Building one item issues one id. -/
lemma buildEvidence_issued
    {answers ctx sourceType toolName ref summary content service observedAt} :
    (buildEvidence answers ctx sourceType toolName ref summary content service observedAt).2 =
      { ctx with issued := ctx.issued + 1 } := by
  unfold buildEvidence ToolContext.nextEvidenceId
  dsimp only
  split <;> rfl

/-- The context after an item was built. -/
lemma buildEvidence_eq {answers ctx sourceType toolName ref summary content service observedAt r
    ctx'} (built : buildEvidence answers ctx sourceType toolName ref summary content service
      observedAt = (r, ctx')) : ctx' = { ctx with issued := ctx.issued + 1 } := by
  rw [← buildEvidence_issued, built]

/-- Building a list of items issues at most one id for each and one for each that is returned. -/
lemma buildAll_issued {ι : Type}
    {build : ToolContext → ι → Except ToolRaised Evidence × ToolContext}
    (one : ∀ ctx item, (build ctx item).2 = { ctx with issued := ctx.issued + 1 }) {ctx items} :
    (buildAll build ctx items).2.maxEvidenceItems = ctx.maxEvidenceItems ∧
      ctx.issued ≤ (buildAll build ctx items).2.issued ∧
      (buildAll build ctx items).2.issued ≤ ctx.issued + items.length ∧
      ∀ evidence, (buildAll build ctx items).1 = .ok evidence →
        ctx.issued + evidence.length ≤ (buildAll build ctx items).2.issued := by
  induction items generalizing ctx with
  | nil =>
    refine ⟨rfl, le_rfl, le_rfl, ?_⟩
    intro evidence e
    cases e
    exact le_rfl
  | cons item items ih =>
    have built := one ctx item
    unfold buildAll
    split
    · rename_i x ctx1 e
      rw [e] at built
      cases built
      refine ⟨rfl, by simp, by simp, ?_⟩
      intro evidence e
      cases e
    · rename_i ev ctx1 e
      rw [e] at built
      cases built
      obtain ⟨capacity, grows, bounded, returned⟩ :=
        @ih { ctx with issued := ctx.issued + 1 }
      split
      · rename_i x ctx2 e2
        rw [e2] at capacity grows bounded
        refine ⟨capacity, ?_, ?_, ?_⟩
        · simp only at grows ⊢
          omega
        · simp only [List.length_cons] at bounded ⊢
          omega
        · intro evidence e
          cases e
      · rename_i evs ctx2 e2
        rw [e2] at capacity grows bounded returned
        refine ⟨capacity, ?_, ?_, ?_⟩
        · simp only at grows ⊢
          omega
        · simp only [List.length_cons] at bounded ⊢
          omega
        · intro evidence e
          cases e
          have := returned evs rfl
          simp only [List.length_cons] at this ⊢
          omega

/-- A `_run` that stops before it builds anything. -/
lemma frugalRun_error {ctx : ToolContext} {x} : FrugalRun ctx (.error x, ctx) := by
  refine ⟨rfl, le_rfl, ?_, ?_⟩
  · simp
  · intro result e
    cases e

/-- A `_run` that builds one item. -/
lemma frugalRun_one {ctx ctx' : ToolContext} {r : Except ToolRaised ToolResult}
    (issued : ctx' = { ctx with issued := ctx.issued + 1 })
    (one : ∀ result, r = .ok result → result.evidence.length = 1) : FrugalRun ctx (r, ctx') := by
  subst issued
  refine ⟨rfl, Nat.le_succ _, Nat.le_max_left _ _, ?_⟩
  intro result e
  rw [one result e]

/-- A `_run` that builds no more items than the budget has left, and returns them or fails. -/
lemma frugalRun_all {ι : Type}
    {build : ToolContext → ι → Except ToolRaised Evidence × ToolContext}
    (one : ∀ ctx item, (build ctx item).2 = { ctx with issued := ctx.issued + 1 })
    {ctx ctx' : ToolContext} {items : List ι} (fits : items.length ≤ ctx.remainingEvidence)
    {built : Except ToolRaised (List Evidence)} (all : buildAll build ctx items = (built, ctx'))
    {r : Except ToolRaised ToolResult}
    (same : ∀ result, r = .ok result → built = .ok result.evidence) : FrugalRun ctx (r, ctx') := by
  obtain ⟨capacity, grows, bounded, returned⟩ := @buildAll_issued _ _ one ctx items
  rw [all] at capacity grows bounded returned
  unfold ToolContext.remainingEvidence at fits
  refine ⟨capacity, grows, ?_, ?_⟩
  · simp only at bounded ⊢
    omega
  · intro result e
    exact returned result.evidence (same result e)

/-- The tool for the incident issues at most one id. -/
lemma issued_getIncident {answers request ctx} :
    (runGetIncident answers request ctx).2.issued ≤ ctx.issued + 1 := by
  unfold runGetIncident
  split
  · exact Nat.le_succ _
  · split
    · rename_i built
      rw [buildEvidence_eq built]
    · rename_i built
      rw [buildEvidence_eq built]

/-- A tool that collects evidence is frugal. -/
lemma Collects.frugal {answers ctx r} (h : Collects answers ctx r) : FrugalRun ctx r := by
  cases h with
  | nothing => exact frugalRun_error
  | one built returned =>
    apply frugalRun_one (buildEvidence_eq built)
    intro result e
    obtain ⟨ev, _, single⟩ := returned result e
    rw [single]
    rfl
  | several each fits built returned =>
    refine frugalRun_all ?_ fits built returned
    intro ctx item
    obtain ⟨_, _, _, _, _, _, _, e⟩ := each ctx item
    rw [e, buildEvidence_issued]

/-- The registry of the deployment is frugal. -/
theorem frugal_buildRegistry {coerce} : Frugal (buildRegistry coerce) where
  call name answers arguments ctx := by
    apply frugalCall_run
    intro request
    exact (collects_run request ctx).frugal
  incident answers arguments ctx := by
    unfold EvidenceTool.run
    split
    · exact Nat.le_succ _
    · split
      · exact Nat.le_succ _
      · rename_i request _
        have issued : (runGetIncident answers request ctx).2.issued ≤ ctx.issued + 1 :=
          issued_getIncident
        split <;> rename_i ran <;> exact (congrArg (fun r => r.2.issued) ran).symm.trans_le issued

end SentinelOps.Rca
