import SentinelOps.Lib.Related
import SentinelOps.Remediation.Steps

/-!
# Free text and what is computed from it

Two proposals are the same to the controller when they differ only in their prose and the evidence
they cite (`SameProposal`); two recommendations give the same advice when they agree on the action
and the target service (`SameAdvice`). The relations are lifted to records, audit events, phases and
calls, and every local computation of the service is shown to keep them: it takes the same branch,
raises the same error and returns values that again differ in free text only.
-/

namespace SentinelOps.Remediation

/-- Two recommendations that agree on the action and the target service. -/
def SameAdvice (r r' : RcaRecommendedActionInput) : Prop :=
  r'.val.actionType = r.val.actionType ∧ r'.val.targetService = r.val.targetService

/-- Two proposals that differ in their reason and the evidence they cite only. -/
def SameProposal (p q : RemediationProposal) : Prop :=
  q.val = { p.val with
    reason := q.val.reason
    evidenceReferences := q.val.evidenceReferences }

/-- Two proposals that differ in their ids, their reason and the evidence they cite only. -/
def SameIntent (p q : RemediationProposal) : Prop :=
  q.val = { p.val with
    remediationId := q.val.remediationId
    reason := q.val.reason
    evidenceReferences := q.val.evidenceReferences }

/-- Two mapping results of the same branch, whose ids were drawn as two tokens. -/
inductive SameBranch (t t' : Token) : MappingResult → MappingResult → Prop where
  | proposal {p q} : p.val.remediationId = newRemediationId t →
    q.val.remediationId = newRemediationId t' → p.val.status = .proposed → SameIntent p q →
    SameBranch t t' (.proposal p) (.proposal q)
  | blocked {b b'} : b.val.remediationId = newRemediationId t →
    b'.val = { b.val with remediationId := newRemediationId t' } →
    SameBranch t t' (.blocked b) (.blocked b')

/-- Two mapping results of the same branch, with one id. -/
inductive SameMapping : MappingResult → MappingResult → Prop where
  | proposal {p q} : SameProposal p q → SameMapping (.proposal p) (.proposal q)
  | blocked {b} : SameMapping (.blocked b) (.blocked b)

/-- Two records whose proposals are the same and whose other parts are equal. -/
structure SameRecord (x y : RemediationRecord) : Prop where
  proposal : SameProposal x.proposal y.proposal
  policyDecision : x.policyDecision = y.policyDecision
  approval : x.approval = y.approval
  execution : x.execution = y.execution
  verification : x.verification = y.verification

/-- Two audit events that are equal, except that the record of a creation quotes the reason and
counts the evidence. -/
def SameEvent (e f : RemediationAuditEvent) : Prop :=
  e = f ∨ e.val.eventType = .proposalCreated ∧
    f.val = { e.val with reason := f.val.reason, metadata := f.val.metadata }

/-- Two responses over the same record. -/
inductive SameResponse : Response → Response → Prop where
  | record {x y} : SameRecord x y → SameResponse (.record x) (.record y)
  | execution {x y result} : SameRecord x y → SameResponse (.execution x result) (.execution y result)
  | verification {x y result replayed} : SameRecord x y →
    SameResponse (.verification x result replayed) (.verification y result replayed)

/-- Two calls at the same place, with the same local variables. -/
inductive SamePhase : Phase → Phase → Prop where
  | started : SamePhase .started .started
  | creating {x y es fs} : SameRecord x y → List.Forall₂ SameEvent es fs →
    SamePhase (.creating x es) (.creating y fs)
  | deciding {p q a es} : SameProposal p q → SamePhase (.deciding p a es) (.deciding q a es)
  | claimingExecution {pending es} :
    SamePhase (.claimingExecution pending es) (.claimingExecution pending es)
  | executing {x y pending} : SameRecord x y →
    SamePhase (.executing x pending) (.executing y pending)
  | completingExecution {result final es} :
    SamePhase (.completingExecution result final es) (.completingExecution result final es)
  | claimingVerification {pending es} :
    SamePhase (.claimingVerification pending es) (.claimingVerification pending es)
  | verifying {x y pending} : SameRecord x y →
    SamePhase (.verifying x pending) (.verifying y pending)
  | completingVerification {result final es} :
    SamePhase (.completingVerification result final es) (.completingVerification result final es)
  | returned {x y} : SameResponse x y → SamePhase (.returned x) (.returned y)
  | raised {e} : SamePhase (.raised e) (.raised e)

/-- Two requests that are equal, except that a proposal's recommendation may be worded and founded
differently. -/
inductive SameRequest : Request → Request → Prop where
  | propose {r : ProposeRequest} {advice} : SameAdvice r.recommendation advice →
    SameRequest (.propose r) (.propose { r with recommendation := advice })
  | decide {r} : SameRequest (.decide r) (.decide r)
  | execute {r} : SameRequest (.execute r) (.execute r)
  | verifyRecovery {r} : SameRequest (.verifyRecovery r) (.verifyRecovery r)

/-- A `propose` call with the same inputs, except that the recommendation may be worded and founded
differently and that other random ids are drawn. -/
inductive SameSituation (r : ProposeRequest) : ProposeRequest → Prop where
  | mk {advice} (token createdToken evaluatedToken blockedToken) :
    SameAdvice r.recommendation advice →
    SameSituation r { r with
      recommendation := advice
      token := token
      createdToken := createdToken
      evaluatedToken := evaluatedToken
      blockedToken := blockedToken }

/-- Two `propose` calls about to store the same ruling. -/
inductive SameRuling : Phase → Phase → Prop where
  | creating {x y : RemediationRecord} {es fs} : SameIntent x.proposal y.proposal →
    x.policyDecision = y.policyDecision → SameRuling (.creating x es) (.creating y fs)

/-- Two calls of the same request at the same place. -/
structure SameCall (c d : Call) : Prop where
  request : SameRequest c.request d.request
  phase : SamePhase c.phase d.phase

/-- Two steps that start the same call, or advance one call in the same environment. -/
inductive SameLabel : Label → Label → Prop where
  | call {r r'} : SameRequest r r' → SameLabel (.call r) (.call r')
  | advance {i env} : SameLabel (.advance i env) (.advance i env)

variable {cfg : ServiceConfig} {p q : RemediationProposal} {x y : RemediationRecord}

namespace SameProposal

/-- A proposal is the same as itself. -/
lemma refl : SameProposal p p := rfl

/-- The same proposal with another reason and other evidence. -/
lemma eq_mk (h : SameProposal p q) : ∃ reason evidence valid,
    q = ⟨{ p.val with reason := reason, evidenceReferences := evidence }, valid⟩ := by
  refine ⟨q.val.reason, q.val.evidenceReferences, h ▸ q.valid, ?_⟩
  exact Validated.ext h

/-- Same proposals moved to the same status. -/
lemma withStatus (h : SameProposal p q) {s} : SameProposal (p.withStatus s) (q.withStatus s) := by
  obtain ⟨reason, evidence, valid, rfl⟩ := h.eq_mk
  rfl

/-- The policy does not read free text. -/
lemma evaluate (h : SameProposal p q) {config ctx} :
    Remediation.evaluate config q ctx = Remediation.evaluate config p ctx := by
  obtain ⟨reason, evidence, valid, rfl⟩ := h.eq_mk
  rfl

/-- The fields every audit event takes from a proposal do not include free text. -/
lemma eventFields (h : SameProposal p q) {eventType actorType ctx} :
    Remediation.eventFields q eventType actorType ctx =
      Remediation.eventFields p eventType actorType ctx := by
  obtain ⟨reason, evidence, valid, rfl⟩ := h.eq_mk
  rfl

/-- The key of the history does not include free text. -/
lemma key (h : SameProposal p q) : q.key = p.key := by
  obtain ⟨reason, evidence, valid, rfl⟩ := h.eq_mk
  rfl

/-- The execution guard does not read free text. -/
lemma authorizeExecution (h : SameProposal p q) {a} :
    Remediation.authorizeExecution q a = Remediation.authorizeExecution p a := by
  obtain ⟨reason, evidence, valid, rfl⟩ := h.eq_mk
  rfl

/-- The executor does not read free text. -/
lemma execute (h : SameProposal p q) {sim token dryRun now} :
    Remediation.execute sim q token dryRun now = Remediation.execute sim p token dryRun now := by
  obtain ⟨reason, evidence, valid, rfl⟩ := h.eq_mk
  rfl

end SameProposal

/-- A record is the same as itself. -/
lemma SameRecord.refl : SameRecord x x where
  proposal := .refl
  policyDecision := rfl
  approval := rfl
  execution := rfl
  verification := rfl

/-- Same records have one status. -/
lemma SameRecord.status (h : SameRecord x y) : y.status = x.status := by
  obtain ⟨reason, evidence, valid, e⟩ := h.proposal.eq_mk
  unfold RemediationRecord.status
  rw [e]

/-- Same records have one id. -/
lemma SameRecord.remediationId (h : SameRecord x y) : y.remediationId = x.remediationId := by
  obtain ⟨reason, evidence, valid, e⟩ := h.proposal.eq_mk
  unfold RemediationRecord.remediationId
  rw [e]

/-- Equal events are the same. -/
lemma forall₂_sameEvent_refl {es : List RemediationAuditEvent} : List.Forall₂ SameEvent es es :=
  List.forall₂_same.mpr fun _ _ => .inl rfl

/-- A text or its replacement is within a bound when both are. -/
lemma length_orElse_le {n} {a b : String} (ha : a.length ≤ n) (hb : b.length ≤ n) :
    (Py.orElse a b).length ≤ n := by
  unfold Py.orElse
  split
  · exact hb
  · exact ha

/-- The prose of a proposal is cut to its bound. -/
lemma length_proposalReason_le {r : RcaActionFields} : (proposalReason r).length ≤ 4000 :=
  length_orElse_le Py.length_takeFirst_le (by decide)

/-- Constructors of equally acceptable fields both succeed or both fail. -/
lemma construct_related {α : Type} [Schema α] {a b : α} (h : Schema.Valid a ↔ Schema.Valid b) :
    Option.Rel (fun x y => x.val = a ∧ y.val = b) (construct a) (construct b) := by
  unfold construct
  by_cases ok : Schema.Valid a
  · rw [dif_pos ok, dif_pos (h.mp ok)]
    exact .some ⟨rfl, rfl⟩
  · rw [dif_neg ok, dif_neg (fun ok' => ok (h.mpr ok'))]
    exact .none

/-- Constructors of equally acceptable fields both succeed or raise the same error. -/
lemma constructOr_related {α : Type} [Schema α] {title} {a b : α}
    (h : Schema.Valid a ↔ Schema.Valid b) :
    Except.Related (fun x y => x.val = a ∧ y.val = b) (constructOr title a) (constructOr title b) := by
  unfold constructOr
  rcases optionRel_elim (construct_related h) with ⟨ea, eb⟩ | ⟨x, y, ea, eb, xy⟩
  · rw [ea, eb]
    exact .error
  · rw [ea, eb]
    exact .ok xy

/-- A fresh id of a remediation is well formed. -/
lemma isRemediationId_new {t} : isRemediationId (newRemediationId t) = true := matchesId_token

/-- The blocked result does not depend on the advice or on the random id. -/
lemma blockedProposal_branch {args : MappingArgs} {token label reason mapped} :
    Except.Related (SameBranch args.token token) (blockedProposal args label reason mapped)
      (blockedProposal { args with token := token } label reason mapped) := by
  unfold blockedProposal
  refine (constructOr_related ?_).map fun b b' bb => ?_
  · simp only [Schema.Valid, isRemediationId_new]
  · refine .blocked ?_ ?_
    · rw [bb.1]
    · rw [bb.2, bb.1]

/-- Whether a mapped proposal is acceptable does not depend on its prose, its evidence or its id. -/
lemma construct_mappedFields {r r' : RcaActionFields} (args : MappingArgs) (token : Token)
    (actionType : RemediationActionType) (target : ServiceTarget)
    (action : r'.actionType = r.actionType) :
    Option.Rel
      (fun p q => p.val = mappedFields r args actionType target ∧
        q.val = mappedFields r' { args with token := token } actionType target)
      (construct (mappedFields r args actionType target))
      (construct (mappedFields r' { args with token := token } actionType target)) := by
  apply construct_related
  simp only [Schema.Valid, mappedFields, action, length_proposalReason_le, isRemediationId_new,
    true_and]

/-- The mapping takes the same branch for the same advice, whatever the random ids. -/
theorem proposalFromRca_branch {r r' : RcaRecommendedActionInput} {args} (token : Token)
    (h : SameAdvice r r') :
    Except.Related (SameBranch args.token token) (proposalFromRca r args)
      (proposalFromRca r' { args with token := token }) := by
  unfold proposalFromRca
  simp only [h.1, h.2]
  cases rcaActionMap r.val.actionType with
  | none => exact blockedProposal_branch
  | some actionType =>
    dsimp only
    by_cases sev : ∃ s ∈ args.incidentSeverity, s ∉ (actionCatalogue actionType).allowedSeverities
    · rw [if_pos sev, if_pos sev]
      exact blockedProposal_branch
    · rw [if_neg sev, if_neg sev]
      by_cases req : (actionCatalogue actionType).requiredParameterNames ≠ []
      · rw [if_pos req, if_pos req]
        exact blockedProposal_branch
      · rw [if_neg req, if_neg req]
        cases r.val.targetService with
        | none => exact blockedProposal_branch
        | some service =>
          dsimp only
          by_cases empty : service = ""
          · rw [if_pos empty, if_pos empty]
            exact blockedProposal_branch
          · rw [if_neg empty, if_neg empty]
            cases construct (α := ServiceTargetFields)
              { serviceName := service, environment := args.targetEnvironment } with
            | none => exact blockedProposal_branch
            | some target =>
              dsimp only
              by_cases ok : isAllowedTarget actionType target = true
              · rw [if_pos ok, if_pos ok]
                by_cases date : IsDatetime (args.now + args.ttl)
                · rw [if_pos date, if_pos date]
                  rcases optionRel_elim (construct_mappedFields args token actionType target h.1) with
                    ⟨ea, eb⟩ | ⟨p, q, ea, eb, ep, eq⟩
                  · rw [ea, eb]
                    exact blockedProposal_branch
                  · rw [ea, eb]
                    refine .ok (.proposal ?_ ?_ ?_ ?_)
                    · rw [ep]
                      rfl
                    · rw [eq]
                      rfl
                    · rw [ep]
                      rfl
                    · unfold SameIntent
                      rw [ep, eq]
                      simp only [mappedFields, h.1]
                · rw [if_neg date, if_neg date]
                  exact .error
              · rw [if_neg ok, if_neg ok]
                exact blockedProposal_branch

/-- The mapping takes the same branch for the same advice. -/
lemma proposalFromRca_same {r r' : RcaRecommendedActionInput} {args} (h : SameAdvice r r') :
    Except.Related SameMapping (proposalFromRca r args) (proposalFromRca r' args) := by
  refine (proposalFromRca_branch args.token h).mono fun a b ab => ?_
  cases ab with
  | proposal hp hq _ same =>
    refine .proposal ?_
    unfold SameIntent at same
    rw [hq, ← hp] at same
    exact same
  | @blocked b b' hb same =>
    rw [← hb] at same
    cases Validated.ext (x := b') (y := b) same
    exact .blocked

/-- The record of a creation differs in what it quotes and counts only. -/
lemma proposalCreatedEvent_same (h : SameProposal p q) {isWord ctx} :
    Except.Related SameEvent (proposalCreatedEvent isWord p ctx) (proposalCreatedEvent isWord q ctx) := by
  unfold proposalCreatedEvent
  rw [h.eventFields]
  generalize he : eventFields p .proposalCreated .system ctx = fields
  have created : fields.eventType = .proposalCreated := by
    rw [← he]
    rfl
  generalize redactMetadata isWord (proposalMetadata p) = m
  generalize redactMetadata isWord (proposalMetadata q) = m'
  have bound : (redactText isWord p.val.reason).length ≤ 1000 := length_redactText_le
  have bound' : (redactText isWord q.val.reason).length ≤ 1000 := length_redactText_le
  generalize redactText isWord p.val.reason = reason at bound
  generalize redactText isWord q.val.reason = reason' at bound'
  have iff : Schema.Valid { fields with newState := some .proposed, reason := reason, metadata := m } ↔
      Schema.Valid { fields with newState := some .proposed, reason := reason', metadata := m' } := by
    simp only [Schema.Valid, bound, bound', true_and]
  unfold buildEvent constructOr construct
  by_cases ok : Schema.Valid { fields with newState := some .proposed, reason := reason, metadata := m }
  · rw [dif_pos ok, dif_pos (iff.mp ok)]
    exact .ok (.inr ⟨created, rfl⟩)
  · rw [dif_neg ok, dif_neg (fun ok' => ok (iff.mpr ok'))]
    exact .error

/-- The events of a denial do not quote free text. -/
lemma blockedEvents_same (h : SameProposal p q) {isWord decision ctx} :
    blockedEvents isWord q decision ctx = blockedEvents isWord p decision ctx := by
  unfold blockedEvents remediationBlockedEvent
  rw [h.eventFields]

/-- What a repository must do with free text: store it and hand it back. -/
structure Repository.Respects {σ : Type} (repo : Repository σ) (S : σ → σ → Prop) : Prop where
  get : ∀ {s t}, S s t → ∀ rid, Except.Related (Option.Rel SameRecord) (repo.get s rid)
    (repo.get t rid)
  create : ∀ {s t x y es fs}, S s t → SameRecord x y → List.Forall₂ SameEvent es fs →
    Except.Related (fun a b => S a.1 b.1 ∧ SameRecord a.2 b.2) (repo.create s x es)
      (repo.create t y fs)
  recordDecision : ∀ {s t p q}, S s t → SameProposal p q → ∀ rid a es,
    Except.Related (fun a b => S a.1 b.1 ∧ SameRecord a.2 b.2) (repo.recordDecision s rid p a es)
      (repo.recordDecision t rid q a es)
  beginExecution : ∀ {s t}, S s t → ∀ rid pending es,
    Except.Related (fun a b => S a.1 b.1 ∧ SameRecord a.2 b.2) (repo.beginExecution s rid pending es)
      (repo.beginExecution t rid pending es)
  finishExecution : ∀ {s t}, S s t → ∀ rid eid result final es,
    Except.Related (fun a b => S a.1 b.1 ∧ SameRecord a.2 b.2)
      (repo.finishExecution s rid eid result final es) (repo.finishExecution t rid eid result final es)
  beginVerification : ∀ {s t}, S s t → ∀ rid pending es,
    Except.Related (fun a b => S a.1 b.1 ∧ SameRecord a.2 b.2)
      (repo.beginVerification s rid pending es) (repo.beginVerification t rid pending es)
  finishVerification : ∀ {s t}, S s t → ∀ rid vid result final es,
    Except.Related (fun a b => S a.1 b.1 ∧ SameRecord a.2 b.2)
      (repo.finishVerification s rid vid result final es)
      (repo.finishVerification t rid vid result final es)
  history : ∀ {s t}, S s t → ∀ key, repo.historySnapshot s key = repo.historySnapshot t key

section
variable {σ : Type} {repo : Repository σ} {S : σ → σ → Prop} {s t : σ}

/-- Two worlds over related stores, with the same simulation, invocations and calls. -/
structure SameWorld (S : σ → σ → Prop) (w v : World σ) : Prop where
  store : S w.store v.store
  sim : w.sim = v.sim
  calls : List.Forall₂ SameCall w.calls v.calls
  invocations : w.invocations = v.invocations

/-- Two step results over related stores. -/
structure SameResult (S : σ → σ → Prop) (a b : StepResult σ) : Prop where
  store : S a.store b.store
  sim : a.sim = b.sim
  phase : SamePhase a.phase b.phase
  invoked : a.invoked = b.invoked

/-- Reading a related value, or failing to, is related. -/
lemma readStorage_same {α : Type} {R : α → α → Prop} {fault} {x y : Except Error α}
    (h : Except.Related R x y) : Except.Related R (readStorage fault x) (readStorage fault y) := by
  unfold readStorage
  cases fault with
  | none => exact h
  | some f => cases f <;> exact .error

/-- Related computations settle in the same phase. -/
lemma settle_same {α : Type} {R : α → α → Prop} {f g : α → Phase} {x y : Except Error α}
    (h : Except.Related R x y) (k : ∀ a b, R a b → SamePhase (f a) (g b)) :
    SamePhase (settle f x) (settle g y) := by
  cases h with
  | ok r => exact k _ _ r
  | error => exact .raised

/-- Related transactions leave related stores and show the calls related results. -/
lemma commit_same {α : Type} {R : α → α → Prop} {fault} {x y : Except Error (σ × α)} (h : S s t)
    (run : Except.Related (fun a b => S a.1 b.1 ∧ R a.2 b.2) x y) :
    S (commit fault s x).1 (commit fault t y).1 ∧
      Except.Related R (commit fault s x).2 (commit fault t y).2 := by
  unfold commit
  cases fault with
  | none =>
    cases run with
    | ok r => exact ⟨r.1, .ok r.2⟩
    | error => exact ⟨h, .error⟩
  | some f =>
    cases f with
    | before e => exact ⟨h, .error⟩
    | after e =>
      cases run with
      | ok r => exact ⟨r.1, .error⟩
      | error => exact ⟨h, .error⟩

end

end SentinelOps.Remediation
