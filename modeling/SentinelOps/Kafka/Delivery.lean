import SentinelOps.Kafka.Invariant

/-!
# No message is lost between consume and commit

`Delivered` is what at-least-once means for the loop: every record a commit has passed was completed
by its handler or reached the dead-letter topic, and none was both. It is not kept by every step:
`Careful` is the exact condition on what happens during a step, and `delivered_iff` lifts it to
whole runs.
-/

namespace SentinelOps.Kafka

variable {E α : Type} {cfg : ConsumerConfig E} {s s' : Loop α} {tp : TopicPartition}
  {r : ConsumerRecord} {rest : List (TopicPartition × ConsumerRecord)} {done dead moved : Bool}

/-- Every record that a commit of this loop has passed is settled. -/
def NothingLost (s : Loop α) : Prop :=
  ∀ tp, ∀ x ∈ s.log tp, s.resumed tp ≤ x.offset → x.offset < s.committed tp →
    Settled s tp x.offset

/-- No record whose handler returned was dead-lettered. -/
def NothingDoubled (s : Loop α) : Prop :=
  ∀ x ∈ s.completed, x ∉ s.deadLetters.map (·.source)

/-- Nothing lost and nothing doubled. -/
structure Delivered (s : Loop α) : Prop where
  lost : NothingLost s
  doubled : NothingDoubled s

/-- Initially nothing is lost or doubled. -/
lemma Delivered.init (h : (consumer cfg).init s) : Delivered s := by
  obtain ⟨_, _, committed, _, completed, _⟩ := h
  constructor
  · intro tp x _ low high
    rw [committed] at high
    omega
  · intro x hx
    rw [completed] at hx
    cases hx

/-- A record that must be dead-lettered is not written to the dead-letter topic, but its offset is
committed all the same. -/
def Drops (env : MessageEnv E α) (v : Verdict) : Prop :=
  v.done = false ∧ v.refused env.handlerCommit = true ∧ env.publish.written = false ∧
    env.rejectCommits = true

/-- The handler of a record returns, the commit after it raises, and the record is written to the
dead-letter topic. -/
def Doubles (env : MessageEnv E α) (v : Verdict) : Prop :=
  v.done = true ∧ v.refused env.handlerCommit = true ∧ env.publish.written = true

/-- No attempt is allowed, so a well-formed record is left untried; a malformed record after it is
dead-lettered and its offset is committed. -/
def Overtakes (cfg : ConsumerConfig E) (s : Loop α) (env : MessageEnv E α) (tp : TopicPartition)
    (r : ConsumerRecord) : Prop :=
  cfg.maxRetries < 1 ∧ Malformed cfg r ∧ env.rejectCommits = true ∧
    ∃ x ∈ s.log tp, s.resumed tp ≤ x.offset ∧ x.offset < r.offset ∧ WellFormed cfg x

/-- The outside lets a step lose and double nothing. -/
def Careful (cfg : ConsumerConfig E) (s : Loop α) : Label E α → Prop
  | .process env => ∀ tp r rest, s.pending = (tp, r) :: rest →
    ¬ Drops env (verdict cfg env r s.app).2 ∧ ¬ Doubles env (verdict cfg env r s.app).2 ∧
      ¬ Overtakes cfg s env tp r
  | _ => True

section
variable {env : MessageEnv E α} {v : Verdict}

/-- The effects of a record whose verdict is known. -/
abbrev Processed (s s' : Loop α) (tp : TopicPartition) (r : ConsumerRecord)
    (rest : List (TopicPartition × ConsumerRecord)) (env : MessageEnv E α) (v : Verdict) : Prop :=
  Took s s' tp r rest v.done (v.refused env.handlerCommit && env.publish.written)
    (v.done && env.handlerCommit.applied || v.refused env.handlerCommit && env.rejectCommits)

/-- A taken record is not settled yet. -/
lemma Inv.unsettled (inv : Inv cfg s) (eff : Took s s' tp r rest done dead moved)
    (head : s.pending = (tp, r) :: rest) : ¬ Settled s tp r.offset := by
  intro h
  have := (inv.past tp r.offset h).2 r (eff.mem_queue head)
  omega

/-- A record that is dropped is lost. -/
lemma Drops.lost (inv : Inv cfg s) (eff : Processed s s' tp r rest env v)
    (head : s.pending = (tp, r) :: rest) (drops : Drops env v) : ¬ NothingLost s' := by
  obtain ⟨notDone, refused, unwritten, commits⟩ := drops
  intro nothing
  obtain ⟨there, low, _⟩ := inv.queued tp r (eff.mem_queue head)
  have passed : r.offset < s'.committed tp := by
    rw [eff.committed_eq, if_pos ⟨rfl, by rw [refused, commits]; simp⟩]
    exact Nat.lt_succ_self _
  have settled := nothing tp r (by rw [eff.log]; exact there) (by rw [eff.resumed]; exact low) passed
  rcases eff.settled.mp settled with h | ⟨_, _, h⟩
  · exact inv.unsettled eff head h
  · simp [notDone, unwritten] at h

/-- A record that is doubled is completed and dead-lettered. -/
lemma Doubles.doubled (eff : Processed s s' tp r rest env v) (doubles : Doubles env v) :
    ¬ NothingDoubled s' := by
  obtain ⟨done, refused, written⟩ := doubles
  intro nothing
  refine nothing (tp, r.offset) ?_ ?_
  · rw [eff.completed, done]
    simp
  · rw [eff.deadLetters, refused, written]
    simp

/-- A record that is overtaken is lost. -/
lemma Overtakes.lost (inv : Inv cfg s) (eff : Processed s s' tp r rest env v)
    (hv : v = (verdict cfg env r s.app).2) (overtakes : Overtakes cfg s env tp r) :
    ¬ NothingLost s' := by
  obtain ⟨none', ⟨text, bad⟩, commits, x, hx, low, before, good⟩ := overtakes
  intro nothing
  have malformed : v = .malformed text := by
    rw [hv]
    simp [verdict, bad]
  have passed : x.offset < s'.committed tp := by
    rw [eff.committed_eq, malformed, if_pos ⟨rfl, by simp [Verdict.refused, commits]⟩]
    omega
  have settled := nothing tp x (by rw [eff.log]; exact hx) (by rw [eff.resumed]; exact low) passed
  rcases eff.settled.mp settled with h | ⟨_, same, _⟩
  · obtain ⟨empty, dead⟩ := inv.untried none'
    rcases h with h | h
    · rw [empty] at h
      cases h
    · obtain ⟨y, hy, same, t, bad'⟩ := dead tp x.offset h
      obtain ⟨e, good⟩ := good
      rw [eq_of_offset (inv.sorted tp) hy hx same, good] at bad'
      cases bad'
  · omega

/-- A careful step loses no record. -/
lemma NothingLost.process (inv : Inv cfg s) (alive : s.healthy = true) (nothing : NothingLost s)
    (eff : Processed s s' tp r rest env v) (head : s.pending = (tp, r) :: rest)
    (hv : v = (verdict cfg env r s.app).2) (kept : ¬ Drops env v)
    (behind : ¬ Overtakes cfg s env tp r) : NothingLost s' := by
  intro p x hx low high
  rw [eff.log] at hx
  rw [eff.resumed] at low
  rw [eff.committed_eq] at high
  apply eff.settled.mpr
  by_cases here : p = tp ∧
      (v.done && env.handlerCommit.applied || v.refused env.handlerCommit && env.rejectCommits) = true
  · rw [if_pos here] at high
    obtain ⟨rfl, moved⟩ := here
    obtain ⟨there, _, below⟩ := inv.queued p r (eff.mem_queue head)
    by_cases same : x.offset = r.offset
    · -- the record itself: its offset was committed, so it was completed or dead-lettered
      right
      refine ⟨rfl, same, ?_⟩
      by_contra neither
      rw [not_or, Bool.not_eq_true, Bool.not_eq_true] at neither
      obtain ⟨notDone, notDead⟩ := neither
      rw [notDone, Bool.false_and, Bool.false_or, Bool.and_eq_true_iff] at moved
      rw [moved.1, Bool.true_and] at notDead
      exact kept ⟨notDone, moved.1, notDead, moved.2⟩
    · -- an earlier record of the partition: it was settled before, or left untried
      have before : x.offset < r.offset := by omega
      have out : x ∉ queue s p := by
        intro hq
        rw [eff.queue_self head] at hq
        rcases List.mem_cons.mp hq with rfl | hq
        · omega
        · have := inv.after eff head hq
          omega
      rcases inv.passed alive p x hx low (by omega) out with h | h | ⟨none', good⟩
      · exact .inl h
      · exact .inl (nothing p x hx low h)
      · exfalso
        apply behind
        rcases verdict_of_no_attempt cfg env r (a := s.app) none' with ⟨text, bad, h⟩ | h | ⟨e, h⟩
        · rw [hv, h] at moved
          exact ⟨none', ⟨text, bad⟩, by simpa [Verdict.done, Verdict.refused] using moved, x, hx, low,
            before, good⟩
        · rw [hv, h] at moved
          simp [Verdict.done, Verdict.refused] at moved
        · rw [hv, h] at moved
          simp [Verdict.done, Verdict.refused] at moved
  · rw [if_neg here] at high
    exact .inl (nothing p x hx low high)

/-- A careful step doubles no record. -/
lemma NothingDoubled.process (inv : Inv cfg s) (nothing : NothingDoubled s)
    (eff : Processed s s' tp r rest env v) (head : s.pending = (tp, r) :: rest)
    (single : ¬ Doubles env v) : NothingDoubled s' := by
  intro x done dead
  have new := inv.unsettled eff head
  rw [eff.completed] at done
  rw [eff.deadLetters] at dead
  rcases List.mem_append.mp done with done | done
  · rcases List.mem_append.mp dead with dead | dead
    · exact nothing x done dead
    · split at dead
      · cases List.mem_singleton.mp dead
        exact new (.inl done)
      · cases dead
  · split at done
    · rename_i returned
      cases List.mem_singleton.mp done
      rcases List.mem_append.mp dead with dead | dead
      · exact new (.inr dead)
      · split at dead
        · rename_i redirected
          obtain ⟨refused, written⟩ := Bool.and_eq_true_iff.mp redirected
          exact single ⟨returned, refused, written⟩
        · cases dead
    · cases done

end

/-- A step keeps the loop from losing and doubling records exactly when it is careful. -/
theorem delivered_step {l : Label E α} (inv : Inv cfg s) (ok : Delivered s)
    (e : step cfg s l = some s') : Delivered s' ↔ Careful cfg s l := by
  rcases step_cases e with ⟨env, tp, r, rest, rfl, alive, head, rfl⟩ | ⟨tp, r, rfl, last, rfl⟩ |
    ⟨batch, rfl, empty, fetches, rfl⟩ | ⟨other, stopped, healthy, still, rfl⟩
  · have eff : Processed s (processOne cfg env tp r { s with pending := rest }).1 tp r rest env
        (verdict cfg env r s.app).2 :=
      (@processOne_effects _ _ cfg env tp r { s with pending := rest }).1
    constructor
    · intro delivered tp' r' rest' head'
      cases head.symm.trans head'
      exact ⟨fun drops => drops.lost inv eff head delivered.lost,
        fun doubles => doubles.doubled eff delivered.doubled,
        fun overtakes => overtakes.lost inv eff rfl delivered.lost⟩
    · intro careful
      obtain ⟨kept, single, behind⟩ := careful tp r rest head
      have lost := ok.lost.process inv alive eff head rfl kept behind
      have doubled := ok.doubled.process inv eff head single
      exact ⟨lost, doubled⟩
  · refine iff_of_true ⟨?_, ok.doubled⟩ trivial
    intro p x hx low high
    by_cases mine : p = tp ∧ x = r
    · obtain ⟨rfl, rfl⟩ := mine
      have := inv.appended last low
      have := (inv.committed p).1
      dsimp only at high
      omega
    · refine ok.lost p x ?_ low high
      by_cases e : p = tp
      · subst e
        simp only [Function.update_self, List.mem_append, List.mem_singleton] at hx
        rcases hx with hx | rfl
        · exact hx
        · exact absurd ⟨rfl, rfl⟩ mine
      · simpa [Function.update_of_ne e] using hx
  · exact iff_of_true ⟨ok.lost, ok.doubled⟩ trivial
  · refine iff_of_true ⟨ok.lost, ok.doubled⟩ ?_
    cases l with
    | process env => exact absurd rfl (other env)
    | _ => trivial

/-- Over every run of the loop, nothing is lost or doubled throughout exactly when every step is
careful. -/
theorem delivered_iff (cfg : ConsumerConfig E) {s0 s : Loop α} {ls : List (Label E α)}
    (init : (consumer cfg).init s0) (run : (consumer cfg).Run s0 ls s) :
    (consumer cfg).Always Delivered s0 ls ↔
      (consumer cfg).EachStep (fun s l _ => Careful cfg s l) s0 ls := by
  apply run.always_iff (I := Inv cfg)
  · intro s l s' inv e
    exact inv.step e
  · intro s l s' inv ok e
    exact delivered_step inv ok e
  · exact .init init
  · exact .init init

/-- A partition. -/
def orders : TopicPartition := ⟨"anomaly.events", 0⟩

/-- A consumer of texts that takes the empty value for malformed. -/
def textConsumer (maxRetries : Int) : ConsumerConfig Bytes where
  topic := "anomaly.events"
  dlqTopic := "anomaly.events.dlq"
  maxRetries
  parseEnvelope
    | some (b :: bs) => .envelope (b :: bs)
    | _ => .decodeError "not valid JSON"

/-- A loop with two records ahead, the second of them malformed. -/
def twoRecords : Loop Unit where
  log := Function.update (fun _ => []) orders [{ offset := 0, value := some [1] }, { offset := 1 }]
  resumed _ := 0
  position _ := 0
  committed _ := 0
  app := ()

/-- The poll that returns both records. -/
def pollBoth : Label Bytes Unit :=
  .poll [(orders, [{ offset := 0, value := some [1] }, { offset := 1 }])]

/-- A handler that returns at once. -/
def returns : Nat → Bytes → ConsumerRecord → Unit → Unit × Option Raised :=
  fun _ _ _ _ => ((), none)

/-- A handler that rejects every message. -/
def rejects : Nat → Bytes → ConsumerRecord → Unit → Unit × Option Raised :=
  fun _ _ _ _ => ((), some ⟨.messageRejected, "MessageRejected", "unknown version"⟩)

/-- The broker is gone. -/
def brokerGone : ClientError where
  name := "KafkaConnectionError"
  text := "broker unavailable"

/-- The handler rejects the first record, the dead-letter publish fails and the commit goes
through. -/
def dropFirst : List (Label Bytes Unit) :=
  [pollBoth, .process { handler := rejects, publish := .failed false brokerGone }]

/-- The handler completes the first record, the commit fails, and the record is dead-lettered. -/
def doubleFirst : List (Label Bytes Unit) :=
  [pollBoth, .process { handler := returns, handlerCommit := .failed false brokerGone }]

/-- Both records are processed with nothing failing. -/
def processBoth : List (Label Bytes Unit) :=
  [pollBoth, .process { handler := returns }, .process { handler := returns }]

/-- A record of a partition that a commit passed and that is not settled. -/
def lostAt (s : Loop α) (tp : TopicPartition) : Bool :=
  (s.log tp).any fun x => decide (s.resumed tp ≤ x.offset ∧ x.offset < s.committed tp ∧
    (tp, x.offset) ∉ s.completed ∧ (tp, x.offset) ∉ s.deadLetters.map (·.source))

/-- Such a record is lost. -/
lemma not_nothingLost (h : lostAt s tp = true) : ¬ NothingLost s := by
  obtain ⟨x, hx, facts⟩ := List.any_eq_true.mp h
  obtain ⟨low, high, notDone, notDead⟩ := of_decide_eq_true facts
  intro nothing
  rcases nothing tp x hx low high with h | h
  · exact notDone h
  · exact notDead h

/-- A record that was completed and dead-lettered. -/
def doubledAt (s : Loop α) (tp : TopicPartition) : Bool :=
  (s.log tp).any fun x => decide ((tp, x.offset) ∈ s.completed ∧
    (tp, x.offset) ∈ s.deadLetters.map (·.source))

/-- Such a record is doubled. -/
lemma not_nothingDoubled (h : doubledAt s tp = true) : ¬ NothingDoubled s := by
  obtain ⟨x, _, facts⟩ := List.any_eq_true.mp h
  obtain ⟨done, dead⟩ := of_decide_eq_true facts
  intro nothing
  exact nothing _ done dead

/-- The loop of two records has not started yet. -/
lemma twoRecords_init {cfg : ConsumerConfig Bytes} : (consumer cfg).init twoRecords := by
  refine ⟨?_, rfl, rfl, rfl, rfl, rfl, rfl, rfl⟩
  intro tp
  by_cases h : tp = orders
  · subst h
    simp [twoRecords]
  · simp [twoRecords, Function.update_of_ne h]

/-- A record is lost when its dead letter is not written or when no attempt is allowed, and doubled
when the commit after its handler fails. -/
theorem lost_and_doubled_records :
    (∃ s : Loop Unit, (consumer (textConsumer 3)).Reachable s ∧ ¬ NothingLost s) ∧
    (∃ s : Loop Unit, (consumer (textConsumer 0)).Reachable s ∧ ¬ NothingLost s) ∧
    ∃ s : Loop Unit, (consumer (textConsumer 3)).Reachable s ∧ ¬ NothingDoubled s := by
  have dropped : ((consumer (textConsumer 3)).exec twoRecords dropFirst).any
      (lostAt · orders) = true := by decide +kernel
  have skipped : ((consumer (textConsumer 0)).exec twoRecords processBoth).any
      (lostAt · orders) = true := by decide +kernel
  have doubled : ((consumer (textConsumer 3)).exec twoRecords doubleFirst).any
      (doubledAt · orders) = true := by decide +kernel
  refine ⟨?_, ?_, ?_⟩
  · obtain ⟨s, run, bad⟩ := (Option.any_eq_true _ _).mp dropped
    exact ⟨s, ⟨_, _, twoRecords_init, Machine.run_iff_exec.mpr run⟩, not_nothingLost bad⟩
  · obtain ⟨s, run, bad⟩ := (Option.any_eq_true _ _).mp skipped
    exact ⟨s, ⟨_, _, twoRecords_init, Machine.run_iff_exec.mpr run⟩, not_nothingLost bad⟩
  · obtain ⟨s, run, bad⟩ := (Option.any_eq_true _ _).mp doubled
    exact ⟨s, ⟨_, _, twoRecords_init, Machine.run_iff_exec.mpr run⟩, not_nothingDoubled bad⟩

/-- The run that drops its first record has a step that is not careful. -/
theorem delivered_iff_dropFirst :
    ∃ s, (consumer (textConsumer 3)).Run twoRecords dropFirst s ∧
      ¬ (consumer (textConsumer 3)).EachStep (fun s l _ => Careful (textConsumer 3) s l) twoRecords
        dropFirst := by
  have dropped : ((consumer (textConsumer 3)).exec twoRecords dropFirst).any
      (lostAt · orders) = true := by decide +kernel
  obtain ⟨s, run, bad⟩ := (Option.any_eq_true _ _).mp dropped
  have r := Machine.run_iff_exec.mpr run
  refine ⟨s, r, ?_⟩
  rw [← delivered_iff (textConsumer 3) twoRecords_init r]
  intro always
  exact not_nothingLost bad (always _ [] s (List.append_nil _).symm r).lost

end SentinelOps.Kafka
