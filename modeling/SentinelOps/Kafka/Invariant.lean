import SentinelOps.Kafka.Attempts

/-!
# The invariant of the consume loop

What holds, in every state of a run, between the logs of the partitions, the batch that is being
processed, the commits and the records that are settled: the records still to be processed are the
upper end of what was fetched, the commits stay below them, and every record below them was settled,
passed by a commit or, when no attempt is allowed, left untried.
-/

namespace SentinelOps.Kafka

variable {E α : Type} {cfg : ConsumerConfig E} {s s' : Loop α} {tp : TopicPartition}
  {r : ConsumerRecord}

/-- A record that was completed by its handler or dead-lettered. -/
def Settled (s : Loop α) (tp : TopicPartition) (offset : Nat) : Prop :=
  (tp, offset) ∈ s.completed ∨ (tp, offset) ∈ s.deadLetters.map (·.source)

/-- The records of a partition that are still to be processed. -/
def queue (s : Loop α) (tp : TopicPartition) : List ConsumerRecord :=
  (s.pending.filter fun x => decide (x.1 = tp)).map (·.2)

/-- A record that decodes to an envelope. -/
def WellFormed (cfg : ConsumerConfig E) (x : ConsumerRecord) : Prop :=
  ∃ e, cfg.parseEnvelope x.value = .envelope e

/-- A record that does not decode. -/
def Malformed (cfg : ConsumerConfig E) (x : ConsumerRecord) : Prop :=
  ∃ text, cfg.parseEnvelope x.value = .decodeError text

/-- What holds between the logs, the batch, the commits and the settled records. -/
structure Inv (cfg : ConsumerConfig E) (s : Loop α) : Prop where
  sorted : ∀ tp, (s.log tp).Pairwise fun x y => x.offset < y.offset
  resumed : ∀ tp, s.resumed tp ≤ s.position tp
  position : ∀ tp, s.position tp = s.resumed tp ∨ ∃ x ∈ s.log tp, s.position tp = x.offset + 1
  queued : ∀ tp, ∀ x ∈ queue s tp,
    x ∈ s.log tp ∧ s.resumed tp ≤ x.offset ∧ x.offset < s.position tp
  order : ∀ tp, (queue s tp).Pairwise fun x y => x.offset < y.offset
  upward : ∀ tp, ∀ x ∈ s.log tp, x.offset < s.position tp → ∀ y ∈ queue s tp,
    y.offset ≤ x.offset → x ∈ queue s tp
  committed : ∀ tp, s.committed tp ≤ s.position tp ∧ ∀ x ∈ queue s tp, s.committed tp ≤ x.offset
  past : ∀ tp o, Settled s tp o → o < s.position tp ∧ ∀ x ∈ queue s tp, o < x.offset
  passed : s.healthy = true → ∀ tp, ∀ x ∈ s.log tp, s.resumed tp ≤ x.offset →
    x.offset < s.position tp → x ∉ queue s tp →
    Settled s tp x.offset ∨ x.offset < s.committed tp ∨ cfg.maxRetries < 1 ∧ WellFormed cfg x
  untried : cfg.maxRetries < 1 → s.completed = [] ∧
    ∀ tp o, (tp, o) ∈ s.deadLetters.map (·.source) → ∃ x ∈ s.log tp, x.offset = o ∧ Malformed cfg x

/-- Records of one partition with one offset are the same record. -/
lemma eq_of_offset {l : List ConsumerRecord} (sorted : l.Pairwise fun x y => x.offset < y.offset)
    {x y} (hx : x ∈ l) (hy : y ∈ l) (h : x.offset = y.offset) : x = y := by
  induction sorted with
  | nil => cases hx
  | @cons a l first _ ih =>
    rcases List.mem_cons.mp hx with rfl | hx'
    · rcases List.mem_cons.mp hy with rfl | hy'
      · rfl
      · have := first y hy'
        omega
    · rcases List.mem_cons.mp hy with rfl | hy'
      · have := first x hx'
        omega
      · exact ih hx' hy'

/-- In an initial state the invariant holds. -/
lemma Inv.init (h : (consumer cfg).init s) : Inv cfg s := by
  obtain ⟨sorted, position, committed, pending, completed, deadLetters, _, _⟩ := h
  have empty : ∀ tp, queue s tp = [] := by
    intro tp
    unfold queue
    rw [pending]
    rfl
  have unsettled : ∀ tp o, ¬ Settled s tp o := by
    intro tp o h
    unfold Settled at h
    rw [completed, deadLetters] at h
    rcases h with h | h
    · cases h
    · cases h
  refine ⟨sorted, fun tp => Nat.le_of_eq (by rw [position]), fun tp => .inl (by rw [position]), ?_, ?_, ?_, ?_, ?_,
    ?_, ?_⟩
  · intro tp x hx
    rw [empty] at hx
    cases hx
  · intro tp
    rw [empty]
    exact .nil
  · intro tp x _ _ y hy
    rw [empty] at hy
    cases hy
  · intro tp
    rw [committed, position, empty]
    exact ⟨Nat.le_refl _, by simp⟩
  · intro tp o h
    exact absurd h (unsettled tp o)
  · intro _ tp x _ low high
    rw [position] at high
    omega
  · intro _
    refine ⟨completed, ?_⟩
    intro tp o h
    exact absurd (.inr h) (unsettled tp o)

/-- A change of the flags only keeps the invariant. -/
lemma Inv.flags (inv : Inv cfg s) {stopped healthy}
    (still : healthy = true → s.healthy = true) :
    Inv cfg { s with stopped, healthy } :=
  ⟨inv.sorted, inv.resumed, inv.position, inv.queued, inv.order, inv.upward, inv.committed, inv.past,
    fun h => inv.passed (still h), inv.untried⟩

/-- A record appended to a log lies at or after the fetch position, or before the resumed offset. -/
lemma Inv.appended (inv : Inv cfg s) (last : ∀ x ∈ s.log tp, x.offset < r.offset)
    (low : s.resumed tp ≤ r.offset) : s.position tp ≤ r.offset := by
  rcases inv.position tp with h | ⟨x, hx, h⟩
  · omega
  · have := last x hx
    omega

/-- Appending a record keeps the invariant. -/
lemma Inv.produce (inv : Inv cfg s) (last : ∀ x ∈ s.log tp, x.offset < r.offset) :
    Inv cfg { s with log := Function.update s.log tp (s.log tp ++ [r]) } := by
  have grown : ∀ {p x}, x ∈ s.log p → x ∈ Function.update s.log tp (s.log tp ++ [r]) p := by
    intro p x hx
    by_cases e : p = tp
    · subst e
      simp [hx]
    · simpa [Function.update_of_ne e] using hx
  have old : ∀ {p x}, x ∈ Function.update s.log tp (s.log tp ++ [r]) p →
      x ∈ s.log p ∨ p = tp ∧ x = r := by
    intro p x hx
    by_cases e : p = tp
    · subst e
      simpa using hx
    · left
      simpa [Function.update_of_ne e] using hx
  refine ⟨?_, inv.resumed, ?_, ?_, inv.order, ?_, inv.committed, inv.past, ?_, ?_⟩
  · intro p
    by_cases e : p = tp
    · subst e
      simp only [Function.update_self]
      refine List.pairwise_append.mpr ⟨inv.sorted p, List.pairwise_singleton _ _, ?_⟩
      intro x hx y hy
      cases List.mem_singleton.mp hy
      exact last x hx
    · simpa [Function.update_of_ne e] using inv.sorted p
  · intro p
    rcases inv.position p with h | ⟨x, hx, h⟩
    · exact .inl h
    · exact .inr ⟨x, grown hx, h⟩
  · intro p x hx
    obtain ⟨there, bounds⟩ := inv.queued p x hx
    exact ⟨grown there, bounds⟩
  · intro p x hx high y hy le
    rcases old hx with hx | ⟨rfl, rfl⟩
    · exact inv.upward p x hx high y hy le
    · have low := (inv.queued p y hy).2.1
      have := inv.appended last (Nat.le_trans low le)
      dsimp only at high
      omega
  · intro healthy p x hx low high
    rcases old hx with hx | ⟨rfl, rfl⟩
    · exact inv.passed healthy p x hx low high
    · have := inv.appended last low
      dsimp only at high
      omega
  · intro none'
    obtain ⟨empty, dead⟩ := inv.untried none'
    refine ⟨empty, ?_⟩
    intro p o h
    obtain ⟨x, hx, rest⟩ := dead p o h
    exact ⟨x, grown hx, rest⟩

/-- The records of a partition in a batch. -/
lemma queue_batch {batch : List (TopicPartition × List ConsumerRecord)}
    (nd : (batch.map (·.1)).Nodup) {p} :
    ((batch.flatMap fun x => x.2.map fun r => (x.1, r)).filter fun x => decide (x.1 = p)).map (·.2) =
      (Dict.lookup p batch).getD [] := by
  induction batch with
  | nil => rfl
  | cons x batch ih =>
    obtain ⟨q, rs⟩ := x
    rw [List.map_cons, List.nodup_cons] at nd
    obtain ⟨fresh, nd⟩ := nd
    rw [List.flatMap_cons, List.filter_append, List.map_append, ih nd]
    by_cases e : q = p
    · subst e
      have absent : Dict.lookup q batch = none := by
        cases h : Dict.lookup q batch with
        | none => rfl
        | some v => exact absurd (List.mem_map.mpr ⟨_, Dict.mem_of_lookup h, rfl⟩) fresh
      have here : Dict.lookup q ((q, rs) :: batch) = some rs := if_pos rfl
      rw [absent, here]
      simp [List.filter_map, Function.comp_def]
    · have later : Dict.lookup p ((q, rs) :: batch) = Dict.lookup p batch := if_neg e
      rw [later]
      simp [List.filter_map, Function.comp_def, e]

/-- A prefix of an ordered log, cut at its last record, is all of the log up to there. -/
lemma mem_of_prefix {l rs : List ConsumerRecord} (sorted : l.Pairwise fun x y => x.offset < y.offset)
    (pre : rs <+: l) {last x} (hl : rs.getLast? = some last) (hx : x ∈ l)
    (le : x.offset ≤ last.offset) : x ∈ rs := by
  obtain ⟨rest, rfl⟩ := pre
  rcases List.mem_append.mp hx with h | h
  · exact h
  · have := (List.pairwise_append.mp sorted).2.2 last (List.mem_of_getLast? hl) x h
    omega

/-- The records of an ordered list are at most its last. -/
lemma le_last {rs : List ConsumerRecord} (sorted : rs.Pairwise fun x y => x.offset < y.offset)
    {last x} (hl : rs.getLast? = some last) (hx : x ∈ rs) : x.offset ≤ last.offset := by
  obtain ⟨init, rfl⟩ := List.getLast?_eq_some_iff.mp hl
  rcases List.mem_append.mp hx with h | h
  · exact Nat.le_of_lt ((List.pairwise_append.mp sorted).2.2 x h last (List.mem_singleton_self _))
  · cases List.mem_singleton.mp h
    exact Nat.le_refl _

/-- What a poll adds to a partition: nothing, or the next records up to the new position. -/
lemma Fetches.next {batch} (fetches : Fetches s batch) (p : TopicPartition) :
    ((Dict.lookup p batch).getD [] = [] ∧ positionAfter s batch p = s.position p) ∨
    ∃ rs last, (Dict.lookup p batch).getD [] = rs ∧ rs.getLast? = some last ∧
      positionAfter s batch p = last.offset + 1 ∧
      rs <+: (s.log p).filter fun r => decide (s.position p ≤ r.offset) := by
  unfold positionAfter
  cases h : Dict.lookup p batch with
  | none => exact .inl ⟨rfl, rfl⟩
  | some rs =>
    cases hl : rs.getLast? with
    | none =>
      left
      refine ⟨List.getLast?_eq_none_iff.mp hl, ?_⟩
      simp [hl]
    | some last =>
      right
      refine ⟨rs, last, rfl, hl, ?_, fetches.2.2 _ (Dict.mem_of_lookup h)⟩
      simp [hl]

/-- Polling a batch keeps the invariant. -/
lemma Inv.poll (inv : Inv cfg s) {batch} (empty : s.pending = []) (fetches : Fetches s batch) :
    Inv cfg { s with
      pending := batch.flatMap fun x => x.2.map fun r => (x.1, r)
      position := positionAfter s batch } := by
  have none' : ∀ p x, x ∉ queue s p := by
    intro p x hx
    unfold queue at hx
    rw [empty] at hx
    cases hx
  have queue' : ∀ p, queue { s with
      pending := batch.flatMap fun x => x.2.map fun r => (x.1, r)
      position := positionAfter s batch } p = (Dict.lookup p batch).getD [] :=
    fun p => queue_batch fetches.1
  -- what holds of a record of the new batch, and that the position only grows
  have added : ∀ p, s.position p ≤ positionAfter s batch p ∧
      ((Dict.lookup p batch).getD []).Pairwise (fun x y => x.offset < y.offset) ∧
      (∀ x ∈ (Dict.lookup p batch).getD [], x ∈ s.log p ∧ s.position p ≤ x.offset ∧
        x.offset < positionAfter s batch p) ∧
      ∀ x ∈ s.log p, s.position p ≤ x.offset → x.offset < positionAfter s batch p →
        x ∈ (Dict.lookup p batch).getD [] := by
    intro p
    rcases fetches.next p with ⟨e, h⟩ | ⟨rs, last, e, hl, h, pre⟩
    · rw [e, h]
      refine ⟨Nat.le_refl _, .nil, by simp, ?_⟩
      intro x _ low high
      omega
    · have sorted := List.Pairwise.filter (fun r => decide (s.position p ≤ r.offset)) (inv.sorted p)
      have sortedRs := sorted.sublist pre.sublist
      have there : ∀ x ∈ rs, x ∈ s.log p ∧ s.position p ≤ x.offset := by
        intro x hx
        have := List.mem_filter.mp (pre.subset hx)
        exact ⟨this.1, of_decide_eq_true this.2⟩
      rw [e, h]
      refine ⟨?_, sortedRs, ?_, ?_⟩
      · have := (there last (List.mem_of_getLast? hl)).2
        omega
      · intro x hx
        have := le_last sortedRs hl hx
        exact ⟨(there x hx).1, (there x hx).2, by omega⟩
      · intro x hx low high
        exact mem_of_prefix sorted pre hl (List.mem_filter.mpr ⟨hx, by simpa using low⟩) (by omega)
  refine ⟨inv.sorted, fun p => Nat.le_trans (inv.resumed p) (added p).1, ?_, ?_, ?_, ?_, ?_, ?_, ?_,
    inv.untried⟩
  · intro p
    rcases fetches.next p with ⟨_, h⟩ | ⟨rs, last, e, hl, h, _⟩
    · dsimp only
      rw [h]
      exact inv.position p
    · have := (added p).2.2.1 last (by rw [e]; exact List.mem_of_getLast? hl)
      exact .inr ⟨last, this.1, h⟩
  · intro p x hx
    rw [queue'] at hx
    obtain ⟨there, low, high⟩ := (added p).2.2.1 x hx
    exact ⟨there, Nat.le_trans (inv.resumed p) low, high⟩
  · intro p
    rw [queue']
    exact (added p).2.1
  · intro p x hx high y hy le
    rw [queue'] at hy ⊢
    have low := ((added p).2.2.1 y hy).2.1
    exact (added p).2.2.2 x hx (Nat.le_trans low le) high
  · intro p
    have old := (inv.committed p).1
    refine ⟨Nat.le_trans old (added p).1, ?_⟩
    intro x hx
    rw [queue'] at hx
    exact Nat.le_trans old ((added p).2.2.1 x hx).2.1
  · intro p o h
    have old := (inv.past p o h).1
    refine ⟨Nat.lt_of_lt_of_le old (added p).1, ?_⟩
    intro x hx
    rw [queue'] at hx
    exact Nat.lt_of_lt_of_le old ((added p).2.2.1 x hx).2.1
  · intro healthy p x hx low high out
    rw [queue'] at out
    refine inv.passed healthy p x hx low ?_ (none' p x)
    by_contra ge
    exact out ((added p).2.2.2 x hx (Nat.le_of_not_lt ge) high)

variable {rest : List (TopicPartition × ConsumerRecord)} {done dead moved : Bool}

/-- What a processed record leaves behind, from the state in which it was taken from the batch. -/
abbrev Took (s s' : Loop α) (tp : TopicPartition) (r : ConsumerRecord)
    (rest : List (TopicPartition × ConsumerRecord)) (done dead moved : Bool) : Prop :=
  Effects { s with pending := rest } s' tp r done dead moved

/-- The records left of the partition whose record was taken. -/
lemma Took.queue_self (eff : Took s s' tp r rest done dead moved)
    (head : s.pending = (tp, r) :: rest) : queue s tp = r :: queue s' tp := by
  unfold queue
  rw [eff.pending, head]
  simp

/-- The records left of another partition. -/
lemma Took.queue_ne (eff : Took s s' tp r rest done dead moved)
    (head : s.pending = (tp, r) :: rest) {p} (ne : p ≠ tp) : queue s' p = queue s p := by
  unfold queue
  rw [eff.pending, head]
  simp [Ne.symm ne]

/-- The records left are among the earlier ones. -/
lemma Took.queue_sub (eff : Took s s' tp r rest done dead moved)
    (head : s.pending = (tp, r) :: rest) {p x} (hx : x ∈ queue s' p) : x ∈ queue s p := by
  by_cases e : p = tp
  · subst e
    rw [eff.queue_self head]
    exact List.mem_cons_of_mem _ hx
  · rwa [eff.queue_ne head e] at hx

/-- The taken record was the first of its partition. -/
lemma Took.mem_queue (eff : Took s s' tp r rest done dead moved)
    (head : s.pending = (tp, r) :: rest) : r ∈ queue s tp := by
  rw [eff.queue_self head]
  exact List.mem_cons_self

/-- The records left come after the taken one. -/
lemma Inv.after (inv : Inv cfg s) (eff : Took s s' tp r rest done dead moved)
    (head : s.pending = (tp, r) :: rest) {x} (hx : x ∈ queue s' tp) : r.offset < x.offset := by
  have order := inv.order tp
  rw [eff.queue_self head, List.pairwise_cons] at order
  exact order.1 x hx

/-- What is settled afterwards was settled before, or is the taken record. -/
lemma Took.settled (eff : Took s s' tp r rest done dead moved) {p o} :
    Settled s' p o ↔ Settled s p o ∨ p = tp ∧ o = r.offset ∧ (done = true ∨ dead = true) := by
  unfold Settled
  rw [eff.completed, eff.deadLetters, List.mem_append, List.mem_append]
  cases done <;> cases dead <;> simp [or_assoc, or_left_comm, or_comm]

/-- The committed offset afterwards. -/
lemma Took.committed_eq (eff : Took s s' tp r rest done dead moved) {p} :
    s'.committed p = if p = tp ∧ moved = true then r.offset + 1 else s.committed p := by
  rw [eff.committed]
  cases moved with
  | false => simp
  | true =>
    by_cases e : p = tp
    · subst e
      simp
    · simp [e]

/-- Processing a record keeps the invariant. -/
lemma Inv.process (inv : Inv cfg s) (alive : s.healthy = true) (head : s.pending = (tp, r) :: rest)
    (eff : Took s s' tp r rest done dead moved) {healthy}
    (went : healthy = true →
      done = true ∨ moved = true ∨ cfg.maxRetries < 1 ∧ WellFormed cfg r)
    (idle : cfg.maxRetries < 1 → done = false ∧ (dead = true → Malformed cfg r)) :
    Inv cfg { s' with healthy } := by
  have own := inv.queued tp r (eff.mem_queue head)
  have log : s'.log = s.log := eff.log
  have resumed : s'.resumed = s.resumed := eff.resumed
  have position : s'.position = s.position := eff.position
  have grows : ∀ p, s.committed p ≤ s'.committed p := by
    intro p
    rw [eff.committed_eq]
    split
    · rename_i h
      have := (inv.committed tp).2 r (eff.mem_queue head)
      rw [h.1]
      omega
    · exact Nat.le_refl _
  -- the log and the positions stay; the queue of `tp` loses its head and no other queue changes
  refine ⟨?_, ?_, ?_, ?_, ?_, ?_, ?_, ?_, ?_, ?_⟩
  · rw [log]
    exact inv.sorted
  · rw [resumed, position]
    exact inv.resumed
  · rw [resumed, position, log]
    exact inv.position
  · intro p x hx
    rw [resumed, position, log]
    exact inv.queued p x (eff.queue_sub head hx)
  · intro p
    by_cases e : p = tp
    · subst e
      have order := inv.order p
      rw [eff.queue_self head, List.pairwise_cons] at order
      exact order.2
    · change (queue s' p).Pairwise _
      rw [eff.queue_ne head e]
      exact inv.order p
  · intro p x hx high y hy le
    rw [log] at hx
    rw [position] at high
    have there := inv.upward p x hx high y (eff.queue_sub head hy) le
    by_cases e : p = tp
    · subst e
      rw [eff.queue_self head] at there
      rcases List.mem_cons.mp there with rfl | there
      · have := inv.after eff head hy
        omega
      · exact there
    · change x ∈ queue s' p
      rwa [eff.queue_ne head e]
  · intro p
    obtain ⟨below, under⟩ := inv.committed p
    change s'.committed p ≤ s'.position p ∧ ∀ x ∈ queue s' p, s'.committed p ≤ x.offset
    rw [eff.committed_eq, position]
    split
    · rename_i h
      obtain ⟨rfl, _⟩ := h
      refine ⟨own.2.2, ?_⟩
      intro x hx
      exact inv.after eff head hx
    · exact ⟨below, fun x hx => under x (eff.queue_sub head hx)⟩
  · intro p o h
    change o < s'.position p ∧ ∀ x ∈ queue s' p, o < x.offset
    rw [position]
    rcases eff.settled.mp h with h | ⟨rfl, rfl, _⟩
    · obtain ⟨below, under⟩ := inv.past p o h
      exact ⟨below, fun x hx => under x (eff.queue_sub head hx)⟩
    · exact ⟨own.2.2, fun x hx => inv.after eff head hx⟩
  · intro ok p x hx low high out
    change Settled s' p x.offset ∨ x.offset < s'.committed p ∨ _
    rw [log] at hx
    rw [resumed] at low
    rw [position] at high
    -- the record itself is settled or committed past; an earlier one already was
    by_cases mine : p = tp ∧ x = r
    · obtain ⟨rfl, rfl⟩ := mine
      rcases went ok with h | h | h
      · exact .inl (eff.settled.mpr (.inr ⟨rfl, rfl, .inl h⟩))
      · right
        left
        rw [eff.committed_eq, if_pos ⟨rfl, h⟩]
        exact Nat.lt_succ_self _
      · exact .inr (.inr h)
    · have before : x ∉ queue s p := by
        intro hq
        by_cases e : p = tp
        · subst e
          rw [eff.queue_self head] at hq
          rcases List.mem_cons.mp hq with rfl | hq
          · exact mine ⟨rfl, rfl⟩
          · exact out hq
        · rw [← eff.queue_ne head e] at hq
          exact out hq
      rcases inv.passed alive p x hx low high before with h | h | h
      · exact .inl (eff.settled.mpr (.inl h))
      · exact .inr (.inl (Nat.lt_of_lt_of_le h (grows p)))
      · exact .inr (.inr h)
  · intro none'
    obtain ⟨empty, bad⟩ := inv.untried none'
    obtain ⟨notDone, malformed⟩ := idle none'
    refine ⟨?_, ?_⟩
    · change s'.completed = []
      rw [eff.completed, notDone]
      simpa using empty
    · intro p o h
      change (p, o) ∈ s'.deadLetters.map (·.source) at h
      change ∃ x ∈ s'.log p, _
      rw [log]
      rw [eff.deadLetters] at h
      rcases List.mem_append.mp h with h | h
      · exact bad p o h
      · cases dead with
        | false => cases h
        | true =>
          cases List.mem_singleton.mp h
          exact ⟨r, own.1, rfl, malformed rfl⟩

/-- A step that is no processing settles nothing and commits nothing. -/
lemma step_cases {l : Label E α} (e : step cfg s l = some s') :
    (∃ env tp r rest, l = .process env ∧ s.healthy = true ∧ s.pending = (tp, r) :: rest ∧
      s' = { (processOne cfg env tp r { s with pending := rest }).1 with
        healthy := (processOne cfg env tp r { s with pending := rest }).2.isNone }) ∨
    (∃ tp r, l = .produce tp r ∧ (∀ x ∈ s.log tp, x.offset < r.offset) ∧
      s' = { s with log := Function.update s.log tp (s.log tp ++ [r]) }) ∨
    (∃ batch, l = .poll batch ∧ s.pending = [] ∧ Fetches s batch ∧
      s' = { s with
        pending := batch.flatMap fun x => x.2.map fun r => (x.1, r)
        position := positionAfter s batch }) ∨
    (∀ env, l ≠ .process env) ∧ ∃ stopped healthy, (healthy = true → s.healthy = true) ∧
      s' = { s with stopped, healthy } := by
  unfold step at e
  split at e
  · rename_i tp r
    split at e
    · rename_i last
      cases e
      exact .inr (.inl ⟨tp, r, rfl, last, rfl⟩)
    · cases e
  · cases e
    exact .inr (.inr (.inr ⟨by simp, true, s.healthy, id, rfl⟩))
  · rename_i batch
    split at e
    · rename_i h
      cases e
      exact .inr (.inr (.inl ⟨batch, rfl, h.2.2.1, h.2.2.2, rfl⟩))
    · cases e
  · split at e
    · cases e
      exact .inr (.inr (.inr ⟨by simp, s.stopped, false, by simp, rfl⟩))
    · cases e
  · rename_i env
    split at e
    · rename_i alive
      split at e
      · cases e
      · rename_i tp r rest head
        cases e
        exact .inl ⟨env, tp, r, rest, rfl, alive.1, head, rfl⟩
    · cases e
  · split at e
    · cases e
      exact .inr (.inr (.inr ⟨by simp, s.stopped, false, by simp, rfl⟩))
    · cases e

/-- When the loop goes on after a record, it was completed, its offset was committed or it was left
untried. -/
lemma processOne_went {env : MessageEnv E α} {v} (hv : v = (verdict cfg env r s.app).2)
    (h : (processOne cfg env tp r s).2 = none) :
    v.done = true ∨ (v.done && env.handlerCommit.applied ||
      v.refused env.handlerCommit && env.rejectCommits) = true ∨
      cfg.maxRetries < 1 ∧ WellFormed cfg r := by
  subst hv
  rcases (processOne_effects cfg env tp r).2 h with h | h | h
  · exact .inr (.inr ((verdict_untried cfg env r).mp h))
  · exact .inl h
  · exact .inr (.inl (by rw [h, Bool.or_true]))

/-- When no attempt is allowed, no handler runs and only malformed records are dead-lettered. -/
lemma verdict_idle {env : MessageEnv E α} {app : α} (none' : cfg.maxRetries < 1) :
    (verdict cfg env r app).2.done = false ∧
      ((verdict cfg env r app).2.refused env.handlerCommit = true → Malformed cfg r) := by
  rcases verdict_of_no_attempt cfg env r (a := app) none' with ⟨text, bad, h⟩ | h | ⟨e, h⟩
  · rw [h]
    exact ⟨rfl, fun _ => ⟨text, bad⟩⟩
  · rw [h]
    exact ⟨rfl, by simp [Verdict.refused]⟩
  · rw [h]
    exact ⟨rfl, by simp [Verdict.refused]⟩

/-- Every step keeps the invariant. -/
theorem Inv.step {l : Label E α} (inv : Inv cfg s) (e : step cfg s l = some s') : Inv cfg s' := by
  rcases step_cases e with ⟨env, tp, r, rest, rfl, alive, head, rfl⟩ | ⟨tp, r, rfl, last, rfl⟩ |
    ⟨batch, rfl, empty, fetches, rfl⟩ | ⟨_, stopped, healthy, still, rfl⟩
  · have effects := (@processOne_effects _ _ cfg env tp r { s with pending := rest }).1
    refine inv.process alive head effects ?_ ?_
    · intro ok
      exact processOne_went rfl (Option.isNone_iff_eq_none.mp ok)
    · intro none'
      obtain ⟨notDone, malformed⟩ := @verdict_idle _ _ _ r env s.app none'
      refine ⟨notDone, fun h => malformed ?_⟩
      exact (Bool.and_eq_true_iff.mp h).1
  · exact inv.produce last
  · exact inv.poll empty fetches
  · exact inv.flags still

end SentinelOps.Kafka
