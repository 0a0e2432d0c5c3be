import SentinelOps.Kafka.Consumer

/-!
# What the processing of a record comes to

The attempts at a record touch nothing but the application state until the last of them:
`verdict` is what they come to, a function of the record and of what its handler does, and
`processOne_eq` splits the processing of a record into the verdict and what the loop makes of it.
`processOne_effects` then says what is left of a processed record: whether its handler returned,
whether it reached the dead-letter topic and whether its offset was committed.
-/

namespace SentinelOps.Kafka

/-- What a record comes to before its offset is committed or it is dead-lettered. -/
inductive Verdict where
  | malformed (text : String)
  | untried
  | returned
  | raised (e : Raised)
  | interrupted (e : Raised)
  deriving DecidableEq

section
variable {E α : Type} (cfg : ConsumerConfig E) (env : MessageEnv E α) (tp : TopicPartition)
  (r : ConsumerRecord)

/-- The handler over the attempts that are left: the application state and what it came to. -/
def handled (envelope : E) : Nat → Nat → α → α × Verdict
  | _, 0, app => (app, .untried)
  | attempt, n + 1, app =>
    match env.handler attempt envelope r app with
    | (app, none) => (app, .returned)
    | (app, some e) =>
      if e.cls = .retryable ∧ (attempt : Int) ≠ cfg.maxRetries then
        match env.sleep attempt with
        | none => handled envelope (attempt + 1) n app
        | some e => (app, .interrupted e)
      else (app, .raised e)

/-- A record from its decoding to the last attempt at it. -/
def verdict (app : α) : α × Verdict :=
  match cfg.parseEnvelope r.value with
  | .decodeError text => (app, .malformed text)
  | .raises e => (app, .interrupted e)
  | .envelope envelope => handled cfg env r envelope 1 cfg.maxRetries.toNat app

/-- The reason a message is dead-lettered with, from what its last attempt raised. -/
def rejection (e : Raised) : String :=
  match e.cls with
  | .messageRejected => s!"rejected: {e.text}"
  | .retryable => s!"retries exhausted: {e.text}"
  | .unexpected | .base => s!"unexpected: {e.name}: {e.text}"

/-- What the loop makes of what the last attempt raised. -/
def refuse (e : Raised) (s : Loop α) : Loop α × Option Raised :=
  if e.cls = .base then (s, some e) else reject cfg env tp r (rejection e) s

/-- What the loop makes of a verdict. -/
def conclude (s : Loop α) : Verdict → Loop α × Option Raised
  | .malformed text => reject cfg env tp r s!"decode: {text}" s
  | .untried => (s, none)
  | .interrupted e => (s, some e)
  | .raised e => refuse cfg env tp r e s
  | .returned =>
    match succeed env tp r s with
    | (s, none) => (s, none)
    | (s, some e) => refuse cfg env tp r e s

/-- An exception of the client is never one the loop would retry. -/
lemma raised_ne_retryable {e : ClientError} :
    e.raised.cls ≠ .retryable ∧ e.raised.cls ≠ .messageRejected := by
  unfold ClientError.raised
  cases e.fatal with
  | false => simp
  | true => simp

/-- What a failed end of a successful record raises is an exception of the client. -/
lemma succeed_raised {s s' : Loop α} {e} (h : succeed env tp r s = (s', some e)) :
    ∃ c : ClientError, e = c.raised ∧ env.handlerCommit.raised = some c.raised := by
  unfold succeed andThen commit at h
  cases hc : env.handlerCommit with
  | ok =>
    rw [hc] at h
    cases h
  | failed applied c =>
    rw [hc] at h
    cases h
    exact ⟨c, rfl, rfl⟩

/-- The loop over the attempts is the handler's part of it and a conclusion. -/
lemma attempts_eq {envelope} {attempt n : Nat} {s : Loop α}
    (left : (attempt : Int) + n = cfg.maxRetries + 1 ∨ n = 0) :
    attempts cfg env tp r envelope attempt n s =
      conclude cfg env tp r { s with app := (handled cfg env r envelope attempt n s.app).1 }
        (handled cfg env r envelope attempt n s.app).2 := by
  induction n generalizing attempt s with
  | zero => rfl
  | succ n ih =>
    have left' : (attempt : Int) + (n + 1) = cfg.maxRetries + 1 := by
      rcases left with h | h
      · exact_mod_cast h
      · cases h
    unfold attempts handled tryHandler
    cases h : env.handler attempt envelope r s.app with
    | mk app out =>
      cases out with
      | none =>
        dsimp only
        cases hs : succeed env tp r { s with app := app } with
        | mk s' e =>
          cases e with
          | none =>
            unfold conclude
            rw [hs]
          | some e =>
            obtain ⟨c, rfl, _⟩ := succeed_raised env tp r hs
            obtain ⟨notRetryable, notRejected⟩ := @raised_ne_retryable c
            cases hc : c.raised.cls with
            | messageRejected => exact absurd hc notRejected
            | retryable => exact absurd hc notRetryable
            | unexpected => simp [conclude, hs, refuse, rejection, hc]
            | base => simp [conclude, hs, refuse, hc]
      | some e =>
        dsimp only
        cases hc : e.cls with
        | messageRejected => simp [conclude, refuse, rejection, hc]
        | unexpected => simp [conclude, refuse, rejection, hc]
        | base => simp [conclude, refuse, hc]
        | retryable =>
          dsimp only
          by_cases last : (attempt : Int) = cfg.maxRetries
          · rw [if_pos last, if_neg (by simp [last])]
            simp [conclude, refuse, rejection, hc]
          · rw [if_neg last, if_pos ⟨rfl, last⟩]
            cases env.sleep attempt with
            | some e => rfl
            | none =>
              dsimp only
              rw [ih]
              left
              push_cast
              omega

/-- The processing of a record is its verdict and a conclusion. -/
theorem processOne_eq {s : Loop α} : processOne cfg env tp r s =
    conclude cfg env tp r { s with app := (verdict cfg env r s.app).1 }
      (verdict cfg env r s.app).2 := by
  unfold processOne verdict
  cases cfg.parseEnvelope r.value with
  | decodeError text => rfl
  | raises e => rfl
  | envelope envelope =>
    apply attempts_eq
    by_cases h : 0 ≤ cfg.maxRetries
    · left
      rw [Int.toNat_of_nonneg h]
      push_cast
      omega
    · right
      omega

/-- Attempts that are left are not all used up before one ends. -/
lemma handled_ne_untried {envelope} {attempt n : Nat} {app : α}
    (left : (attempt : Int) + (n + 1) = cfg.maxRetries + 1) :
    (handled cfg env r envelope attempt (n + 1) app).2 ≠ .untried := by
  induction n generalizing attempt app with
  | zero =>
    unfold handled
    cases env.handler attempt envelope r app with
    | mk app out =>
      cases out with
      | none => simp
      | some e =>
        have last : (attempt : Int) = cfg.maxRetries := by omega
        simp [last]
  | succ n ih =>
    unfold handled
    cases env.handler attempt envelope r app with
    | mk app out =>
      cases out with
      | none => simp
      | some e =>
        dsimp only
        by_cases again : e.cls = .retryable ∧ (attempt : Int) ≠ cfg.maxRetries
        · rw [if_pos again]
          cases env.sleep attempt with
          | some e => simp
          | none =>
            apply ih
            push_cast at left ⊢
            omega
        · rw [if_neg again]
          simp

/-- A record is left untried exactly when it is well formed and no attempt is allowed. -/
lemma verdict_untried {app : α} : (verdict cfg env r app).2 = .untried ↔
    cfg.maxRetries < 1 ∧ ∃ envelope, cfg.parseEnvelope r.value = .envelope envelope := by
  unfold verdict
  cases h : cfg.parseEnvelope r.value with
  | decodeError text => simp
  | raises e => simp
  | envelope envelope =>
    dsimp only
    by_cases some' : cfg.maxRetries < 1
    · have none' : cfg.maxRetries.toNat = 0 := by omega
      rw [none']
      simp [handled, some']
    · obtain ⟨n, hn⟩ : ∃ n, cfg.maxRetries.toNat = n + 1 := ⟨cfg.maxRetries.toNat - 1, by omega⟩
      rw [hn]
      have tried := @handled_ne_untried _ _ cfg env r envelope 1 n app (by push_cast; omega)
      simp [tried, some']

/-- Without an attempt, a record is malformed, left untried, or its decoding raises. -/
lemma verdict_of_no_attempt {a : α} (none' : cfg.maxRetries < 1) :
    (∃ text, cfg.parseEnvelope r.value = .decodeError text ∧
      (verdict cfg env r a).2 = .malformed text) ∨
    (verdict cfg env r a).2 = .untried ∨ ∃ e, (verdict cfg env r a).2 = .interrupted e := by
  cases h : cfg.parseEnvelope r.value with
  | decodeError text =>
    left
    exact ⟨text, rfl, by simp [verdict, h]⟩
  | raises e =>
    right
    right
    exact ⟨e, by simp [verdict, h]⟩
  | envelope envelope =>
    right
    left
    exact (verdict_untried cfg env r).mpr ⟨none', envelope, h⟩

end

/-- What the processing of a record leaves behind: whether its handler returned, whether it reached
the dead-letter topic and whether its offset was committed; everything else is as it was. -/
structure Effects {α : Type} (s s' : Loop α) (tp : TopicPartition) (r : ConsumerRecord)
    (done dead moved : Bool) : Prop where
  log : s'.log = s.log
  resumed : s'.resumed = s.resumed
  position : s'.position = s.position
  pending : s'.pending = s.pending
  stopped : s'.stopped = s.stopped
  completed : s'.completed = s.completed ++ if done then [(tp, r.offset)] else []
  deadLetters : s'.deadLetters.map (·.source) =
    s.deadLetters.map (·.source) ++ if dead then [(tp, r.offset)] else []
  committed : s'.committed =
    if moved then Function.update s.committed tp (r.offset + 1) else s.committed

/-- The handler returned. -/
def Verdict.done : Verdict → Bool
  | .returned => true
  | _ => false

/-- The loop goes on to dead-letter the record: it is malformed, its last attempt raised an
`Exception`, or its handler returned but the commit after it raised one. -/
def Verdict.refused (commit : CommitOutcome) : Verdict → Bool
  | .malformed _ => true
  | .raised e => decide (e.cls ≠ .base)
  | .returned =>
    match commit with
    | .ok => false
    | .failed _ e => !e.fatal
  | _ => false

section
variable {E α : Type} (cfg : ConsumerConfig E) (env : MessageEnv E α) (tp : TopicPartition)
  (r : ConsumerRecord) {s s' s'' : Loop α} {done dead moved moved' : Bool}

/-- The commit after a dead letter is reached and applied. -/
def MessageEnv.rejectCommits : Bool := env.publish.escaped.isNone && env.publishCommit.applied

/-- No effect. -/
lemma Effects.refl : Effects s s tp r false false false :=
  ⟨rfl, rfl, rfl, rfl, rfl, (List.append_nil _).symm, (List.append_nil _).symm, rfl⟩

/-- The application state and the counters are not among the effects. -/
lemma Effects.counted (h : Effects s s' tp r done dead moved) {app processed rejected} :
    Effects s { s' with app, processed, rejected } tp r done dead moved :=
  ⟨h.log, h.resumed, h.position, h.pending, h.stopped, h.completed, h.deadLetters, h.committed⟩

/-- Effects in sequence, of which no kind happens twice except a commit. -/
lemma Effects.trans {done' dead'} (h : Effects s s' tp r done dead moved)
    (h' : Effects s' s'' tp r done' dead' moved') (once : (done && done') = false)
    (once' : (dead && dead') = false) :
    Effects s s'' tp r (done || done') (dead || dead') (moved || moved') where
  log := h'.log.trans h.log
  resumed := h'.resumed.trans h.resumed
  position := h'.position.trans h.position
  pending := h'.pending.trans h.pending
  stopped := h'.stopped.trans h.stopped
  completed := by
    rw [h'.completed, h.completed]
    cases done with
    | false => simp
    | true =>
      rw [Bool.true_and] at once
      simp [once]
  deadLetters := by
    rw [h'.deadLetters, h.deadLetters]
    cases dead with
    | false => simp
    | true =>
      rw [Bool.true_and] at once'
      simp [once']
  committed := by
    rw [h'.committed, h.committed]
    cases moved with
    | false => rfl
    | true => cases moved' <;> simp

/-- A commit moves the committed offset when it is applied. -/
lemma commit_effects {o} : Effects s (commit tp r o s).1 tp r false false o.applied := by
  unfold commit
  cases h : o.applied with
  | false => exact .refl tp r
  | true =>
    exact ⟨rfl, rfl, rfl, rfl, rfl, (List.append_nil _).symm, (List.append_nil _).symm, rfl⟩

/-- A publish adds a dead letter when it is written. -/
lemma toDlq_effects {reason} :
    Effects s (toDlq cfg env tp r reason s).1 tp r false env.publish.written false := by
  unfold toDlq
  cases h : env.publish.written with
  | false => exact .refl tp r
  | true =>
    refine ⟨rfl, rfl, rfl, rfl, rfl, (List.append_nil _).symm, ?_, rfl⟩
    simp [deadLetter]

/-- What a rejection leaves behind. -/
lemma reject_effects {reason} :
    Effects s (reject cfg env tp r reason s).1 tp r false env.publish.written env.rejectCommits ∧
      ((reject cfg env tp r reason s).2 = none → env.rejectCommits = true) := by
  have published := @toDlq_effects _ _ cfg env tp r s reason
  unfold reject MessageEnv.rejectCommits
  cases hd : toDlq cfg env tp r reason s with
  | mk s1 e1 =>
    rw [hd] at published
    have he : e1 = env.publish.escaped := by
      have := congrArg Prod.snd hd
      exact this.symm
    rw [← he]
    cases e1 with
    | some e => exact ⟨published, by simp [andThen]⟩
    | none =>
      have moved := @commit_effects _ tp r s1 env.publishCommit
      have both := published.trans tp r moved (by simp) (by simp)
      unfold andThen
      dsimp only
      cases hc : commit tp r env.publishCommit s1 with
      | mk s2 e2 =>
        rw [hc] at both
        have he2 : e2 = env.publishCommit.raised := by
          have := congrArg Prod.snd hc
          exact this.symm
        cases e2 with
        | some e => exact ⟨by simpa using both, by simp⟩
        | none =>
          have applied : env.publishCommit.applied = true := by
            cases ho : env.publishCommit with
            | ok => rfl
            | failed a c =>
              rw [ho] at he2
              cases he2
          refine ⟨?_, by simp [applied]⟩
          simpa using both.counted tp r

/-- What the end of a successful record leaves behind. -/
lemma succeed_effects :
    Effects s (succeed env tp r s).1 tp r true false env.handlerCommit.applied ∧
      (succeed env tp r s).2 = env.handlerCommit.raised := by
  have ended : Effects s { s with completed := s.completed ++ [(tp, r.offset)] } tp r true false
      false :=
    ⟨rfl, rfl, rfl, rfl, rfl, rfl, (List.append_nil _).symm, rfl⟩
  have both := ended.trans tp r (@commit_effects _ tp r _ env.handlerCommit) (by simp) (by simp)
  unfold succeed andThen
  cases hc : commit tp r env.handlerCommit
      { s with completed := s.completed ++ [(tp, r.offset)] } with
  | mk s1 e1 =>
    rw [hc] at both
    have he : e1 = env.handlerCommit.raised := by
      have := congrArg Prod.snd hc
      exact this.symm
    cases e1 with
    | some e => exact ⟨by simpa using both, he⟩
    | none => exact ⟨by simpa using both.counted tp r, he⟩

/-- What the refusal of a record leaves behind. -/
lemma refuse_effects {e} :
    Effects s (refuse cfg env tp r e s).1 tp r false (decide (e.cls ≠ .base) && env.publish.written)
        (decide (e.cls ≠ .base) && env.rejectCommits) ∧
      ((refuse cfg env tp r e s).2 = none →
        (decide (e.cls ≠ .base) && env.rejectCommits) = true) := by
  unfold refuse
  by_cases base : e.cls = .base
  · rw [if_pos base]
    simpa [base] using Effects.refl tp r
  · rw [if_neg base]
    simpa [base] using reject_effects cfg env tp r

/-- What the conclusion of a record leaves behind, and when the loop goes on after it. -/
lemma conclude_effects {v} :
    Effects s (conclude cfg env tp r s v).1 tp r v.done
        (v.refused env.handlerCommit && env.publish.written)
        (v.done && env.handlerCommit.applied || v.refused env.handlerCommit && env.rejectCommits) ∧
      ((conclude cfg env tp r s v).2 = none →
        v = .untried ∨ v.done = true ∨
          (v.refused env.handlerCommit && env.rejectCommits) = true) := by
  cases v with
  | malformed text =>
    obtain ⟨effects, ended⟩ := @reject_effects _ _ cfg env tp r s s!"decode: {text}"
    refine ⟨by simpa [conclude, Verdict.done, Verdict.refused] using effects, fun h => ?_⟩
    right
    right
    simpa [Verdict.refused] using ended h
  | untried => exact ⟨by simpa [conclude, Verdict.done, Verdict.refused] using Effects.refl tp r, by simp⟩
  | interrupted e =>
    exact ⟨by simpa [conclude, Verdict.done, Verdict.refused] using Effects.refl tp r, by simp [conclude]⟩
  | raised e =>
    obtain ⟨effects, ended⟩ := @refuse_effects _ _ cfg env tp r s e
    refine ⟨by simpa [conclude, Verdict.done, Verdict.refused] using effects, fun h => ?_⟩
    right
    right
    exact ended h
  | returned =>
    refine ⟨?_, fun _ => .inr (.inl rfl)⟩
    obtain ⟨effects, left⟩ := @succeed_effects _ _ env tp r s
    unfold conclude
    cases hs : succeed env tp r s with
    | mk s1 e1 =>
      rw [hs] at effects left
      cases ho : env.handlerCommit with
      | ok =>
        rw [ho] at effects left
        cases left
        simpa [conclude, Verdict.done, Verdict.refused] using effects
      | failed applied c =>
        rw [ho] at effects left
        cases left
        obtain ⟨refused, _⟩ := @refuse_effects _ _ cfg env tp r s1 c.raised
        have both := effects.trans tp r refused (by simp) (by simp)
        have fatal : decide (c.raised.cls ≠ .base) = !c.fatal := by
          cases hf : c.fatal <;> simp [ClientError.raised, hf]
        rw [fatal] at both
        simpa [conclude, Verdict.done, Verdict.refused] using both

/-- What a processed record leaves behind, and when the loop goes on after it. -/
theorem processOne_effects :
    let v := (verdict cfg env r s.app).2
    Effects s (processOne cfg env tp r s).1 tp r v.done
        (v.refused env.handlerCommit && env.publish.written)
        (v.done && env.handlerCommit.applied || v.refused env.handlerCommit && env.rejectCommits) ∧
      ((processOne cfg env tp r s).2 = none →
        v = .untried ∨ v.done = true ∨
          (v.refused env.handlerCommit && env.rejectCommits) = true) := by
  dsimp only
  rw [processOne_eq]
  obtain ⟨effects, ended⟩ := @conclude_effects _ _ cfg env tp r
    { s with app := (verdict cfg env r s.app).1 } (verdict cfg env r s.app).2
  exact ⟨⟨effects.log, effects.resumed, effects.position, effects.pending, effects.stopped,
    effects.completed, effects.deadLetters, effects.committed⟩, ended⟩

end

end SentinelOps.Kafka
