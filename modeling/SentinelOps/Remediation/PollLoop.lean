import SentinelOps.Remediation.Recovery
import Mathlib.Data.Rat.Floor
import Mathlib.Data.Nat.Digits.Defs
import Mathlib.Algebra.Order.Floor.Semiring

/-!
# The poll loop

Poll number `k` observes the target `k` steps after the start. The loop stops at the first poll
whose checks all pass and otherwise after the last one (`pollFrom_first`, `pollFrom_exhausted`);
`verify_polls` states this of a whole verification, and when it succeeds with the simulated probe.
The checks do not consult two of the configured thresholds: `recovered_iff` says when a verdict of
recovery nevertheless means that all of them were met.
-/

namespace SentinelOps.Remediation

variable {isWord : WordTable} {probe probe' : Probe} {target : ServiceTarget}
  {config : RecoveryVerificationConfig} {step : Int} {startedAt current : Instant}
  {maxAttempts attempt left : Nat}

/-- The instant of a poll. -/
def pollInstant (startedAt : Instant) (step : Int) (k : Nat) : Instant := startedAt + k * step

/-- A snapshot passes every check of the verifier. -/
def PassesChecks (isWord : WordTable) (config : RecoveryVerificationConfig) (s : HealthSnapshot) :
    Prop :=
  (evaluateChecks isWord s config).all (·.passed) = true

/-- A poll passes: the probe answers with a snapshot that passes every check. -/
def PollPasses (isWord : WordTable) (config : RecoveryVerificationConfig)
    (answer : Option HealthSnapshot) : Prop :=
  ∃ s, answer = some s ∧ PassesChecks isWord config s

/-- The thresholds the checks consult. -/
lemma passesChecks_iff {s : HealthSnapshot} : PassesChecks isWord config s ↔
    s.val.running = true ∧ s.val.errorRate.le config.val.maxErrorRate = true ∧
      s.val.latencyP95Ms.le config.val.maxLatencyP95Ms = true ∧
      (config.val.requireReady = true → s.val.ready = true) := by
  unfold PassesChecks evaluateChecks
  by_cases required : config.val.requireReady = true
  · simp [check, required]
  · simp [check, required]

/-- A poll that raised fails, one that was answered is judged by its snapshot. -/
lemma all_poll_iff {answer} : (poll isWord config answer).2.2.all (·.passed) = true ↔
    PollPasses isWord config answer := by
  cases answer with
  | none => simp [poll, probeErrorCheck, PollPasses]
  | some s => simp [poll, PollPasses, PassesChecks]

@[simp] lemma pollInstant_zero : pollInstant startedAt step 0 = startedAt := by
  simp [pollInstant]

/-- The polls after the first one. -/
lemma pollInstant_succ {k : Nat} :
    pollInstant startedAt step (k + 1) = pollInstant (startedAt + step) step k := by
  unfold pollInstant
  push_cast
  ring

/-- A poll that passes ends the loop. -/
lemma pollFrom_passes (passes : PollPasses isWord config (probe attempt target current)) :
    pollFrom isWord probe target config step maxAttempts startedAt attempt left current =
      recoveredOutcome startedAt attempt current
        (poll isWord config (probe attempt target current)) := by
  unfold pollFrom
  dsimp only
  rw [if_pos (all_poll_iff.mpr passes)]

/-- A poll that fails does not. -/
lemma pollFrom_fails (fails : ¬ PollPasses isWord config (probe attempt target current)) :
    pollFrom isWord probe target config step maxAttempts startedAt attempt (left + 1) current =
      pollFrom isWord probe target config step maxAttempts startedAt (attempt + 1) left
        (current + step) := by
  conv_lhs => unfold pollFrom
  dsimp only
  rw [if_neg (fun all => fails (all_poll_iff.mp all))]

/-- The loop ends at its first passing poll. -/
lemma pollFrom_first {k : Nat} (within : k ≤ left)
    (passes : PollPasses isWord config (probe (attempt + k) target (pollInstant current step k)))
    (first : ∀ j < k, ¬ PollPasses isWord config
      (probe (attempt + j) target (pollInstant current step j))) :
    pollFrom isWord probe target config step maxAttempts startedAt attempt left current =
      recoveredOutcome startedAt (attempt + k) (pollInstant current step k)
        (poll isWord config (probe (attempt + k) target (pollInstant current step k))) := by
  induction k generalizing attempt left current with
  | zero =>
    rw [pollInstant_zero, Nat.add_zero] at passes ⊢
    exact pollFrom_passes passes
  | succ k ih =>
    have failed := first 0 (Nat.succ_pos k)
    rw [pollInstant_zero, Nat.add_zero] at failed
    obtain ⟨left, rfl⟩ : ∃ l, left = l + 1 := ⟨left - 1, by omega⟩
    have count (j : Nat) : attempt + (j + 1) = attempt + 1 + j := by omega
    rw [pollInstant_succ, count k] at passes ⊢
    rw [pollFrom_fails failed]
    refine ih (Nat.le_of_succ_le_succ within) passes ?_
    intro j before
    have later := first (j + 1) (Nat.succ_lt_succ before)
    rw [pollInstant_succ, count j] at later
    exact later

/-- Without a passing poll the window is exhausted. -/
lemma pollFrom_exhausted
    (none_passes : ∀ j ≤ left, ¬ PollPasses isWord config
      (probe (attempt + j) target (pollInstant current step j))) :
    pollFrom isWord probe target config step maxAttempts startedAt attempt left current =
      exhaustedOutcome isWord config maxAttempts startedAt (pollInstant current step left)
        (poll isWord config (probe (attempt + left) target (pollInstant current step left))) := by
  induction left generalizing attempt current with
  | zero =>
    have failed := none_passes 0 (Nat.le_refl 0)
    rw [pollInstant_zero, Nat.add_zero] at failed ⊢
    unfold pollFrom
    dsimp only
    rw [if_neg (fun all => failed (all_poll_iff.mp all))]
  | succ left ih =>
    have failed := none_passes 0 (Nat.zero_le _)
    rw [pollInstant_zero, Nat.add_zero] at failed
    have count (j : Nat) : attempt + (j + 1) = attempt + 1 + j := by omega
    rw [pollInstant_succ, count left, pollFrom_fails failed]
    apply ih
    intro j within
    have later := none_passes (j + 1) (Nat.succ_le_succ within)
    rw [pollInstant_succ, count j] at later
    exact later

/-- The whole part of the window over the interval: the number of the last poll. -/
def lastPoll (config : RecoveryVerificationConfig) (q : ℚ) : Nat :=
  ⌊(config.val.timeoutSeconds : ℚ) / q⌋₊

/-- The answer of the probe to a poll. -/
def answer (probe : Probe) (target : ServiceTarget) (startedAt : Instant) (step : Int) (k : Nat) :
    Option HealthSnapshot :=
  probe (k + 1) target (pollInstant startedAt step k)

/-- A verification ended at its first passing poll, or after the last one. -/
structure EndsAtFirst (passes : Nat → Prop) (n : Nat) (at_ : Nat → Instant) (o : RecoveryOutcome) :
    Prop where
  recovered : ∀ k ≤ n, passes k → (∀ j < k, ¬ passes j) →
    o.status = .recovered ∧ o.attempts = k + 1 ∧ o.firstHealthyAt = some (at_ k) ∧
      o.completedAt = at_ k
  exhausted : (∀ k ≤ n, ¬ passes k) →
    o.status = .recoveryFailed ∧ o.attempts = n + 1 ∧ o.firstHealthyAt = none ∧
      o.completedAt = at_ n

namespace EndsAtFirst

variable {passes : Nat → Prop} {n : Nat} {at_ : Nat → Instant} {o : RecoveryOutcome}

/-- The first of several passing polls. -/
lemma exists_first {k : Nat} (within : k ≤ n) (hit : passes k) :
    ∃ j ≤ n, passes j ∧ ∀ i < j, ¬ passes i := by
  classical
  have some_hit : ∃ j, passes j := ⟨k, hit⟩
  exact ⟨Nat.find some_hit, (Nat.find_min' some_hit hit).trans within, Nat.find_spec some_hit,
    fun i before => Nat.find_min some_hit before⟩

/-- It succeeds exactly when some poll passes. -/
lemma recovers_iff (h : EndsAtFirst passes n at_ o) :
    o.status = .recovered ↔ ∃ k ≤ n, passes k := by
  constructor
  · intro recovered
    by_contra none_passes
    have failed := (h.exhausted fun k within hit => none_passes ⟨k, within, hit⟩).1
    cases recovered.symm.trans failed
  · rintro ⟨k, within, hit⟩
    obtain ⟨j, within', hit', first⟩ := exists_first within hit
    exact (h.recovered j within' hit' first).1

/-- It ends at one of its polls. -/
lemma ends (h : EndsAtFirst passes n at_ o) :
    ∃ k ≤ n, o.attempts = k + 1 ∧ o.completedAt = at_ k := by
  by_cases some_hit : ∃ k ≤ n, passes k
  · obtain ⟨k, within, hit⟩ := some_hit
    obtain ⟨j, within', hit', first⟩ := exists_first within hit
    obtain ⟨_, attempts, _, completed⟩ := h.recovered j within' hit' first
    exact ⟨j, within', attempts, completed⟩
  · obtain ⟨_, attempts, _, completed⟩ :=
      h.exhausted fun k within hit => some_hit ⟨k, within, hit⟩
    exact ⟨n, Nat.le_refl n, attempts, completed⟩

/-- A success is that of the first passing poll. -/
lemma first_of_recovered (h : EndsAtFirst passes n at_ o) (recovered : o.status = .recovered) :
    ∃ k ≤ n, passes k ∧ (∀ j < k, ¬ passes j) ∧ o.attempts = k + 1 := by
  obtain ⟨k, within, hit⟩ := h.recovers_iff.mp recovered
  obtain ⟨j, within', hit', first⟩ := exists_first within hit
  exact ⟨j, within', hit', first, (h.recovered j within' hit' first).2.1⟩

end EndsAtFirst

section
variable {q : ℚ}

/-- An admissible interval is positive. -/
lemma pollInterval_pos (interval : config.val.pollIntervalSeconds = .fin q) : 0 < q := by
  obtain ⟨_, ⟨above, _⟩, _⟩ := config.valid
  rw [interval] at above
  have large : ¬ q < 0 ∧ ¬ q = 0 := by simpa [PyFloat.Above, PyFloat.le, PyFloat.lt] using above
  exact lt_of_le_of_ne (not_lt.mp large.1) (Ne.symm large.2)

/-- The verification is the loop over its polls, when their number is a float. -/
lemma verify_eq (interval : config.val.pollIntervalSeconds = .fin q)
    (countable : |(config.val.timeoutSeconds : ℚ) / q| < PyFloat.overflow) :
    verify isWord probe target config startedAt = .ok (pollFrom isWord probe target config
      (Py.roundHalfEven (q * 1000000)) (lastPoll config q + 1) startedAt 1 (lastPoll config q)
      startedAt) := by
  have pos := pollInterval_pos interval
  obtain ⟨⟨least, _⟩, _⟩ := config.valid
  have nonneg : 0 ≤ (config.val.timeoutSeconds : ℚ) / q :=
    div_nonneg (by exact_mod_cast (by omega : (0 : Int) ≤ config.val.timeoutSeconds)) pos.le
  have count : (max 1 ((((config.val.timeoutSeconds : ℚ) / q).floor : Int) + 1).toNat) =
      lastPoll config q + 1 := by
    have whole : (0 : Int) ≤ ((config.val.timeoutSeconds : ℚ) / q).floor := Int.floor_nonneg.mpr nonneg
    unfold lastPoll
    rw [show ⌊(config.val.timeoutSeconds : ℚ) / q⌋₊ =
      ((config.val.timeoutSeconds : ℚ) / q).floor.toNat from rfl]
    omega
  unfold verify RecoveryVerificationConfig.pollStep RecoveryVerificationConfig.maxAttempts
  simp only [interval, PyFloat.timedelta, PyFloat.intFloorDiv, raiseFloat, pos.ne', if_false,
    if_neg (not_le.mpr countable), bind, Except.bind, pure, Except.pure, count, Nat.add_sub_cancel]

/-- The loop over the polls ends at the first that passes. -/
lemma pollFrom_endsAtFirst {n : Nat} : EndsAtFirst
    (fun k => PollPasses isWord config (answer probe target startedAt step k)) n
    (pollInstant startedAt step)
    (pollFrom isWord probe target config step (n + 1) startedAt 1 n startedAt) := by
  have count (k : Nat) : k + 1 = 1 + k := Nat.add_comm k 1
  unfold answer
  constructor
  · intro k within passes first
    simp only [count] at passes first
    rw [pollFrom_first within passes first]
    exact ⟨rfl, (count k).symm, rfl, rfl⟩
  · intro none_passes
    simp only [count] at none_passes
    rw [pollFrom_exhausted none_passes]
    exact ⟨rfl, rfl, rfl, rfl⟩

/-- The loop makes the poll it stands at. -/
lemma le_pollFrom_attempts (count : attempt + left = maxAttempts) : attempt ≤
    (pollFrom isWord probe target config step maxAttempts startedAt attempt left current).attempts := by
  induction left generalizing attempt current with
  | zero =>
    unfold pollFrom
    dsimp only
    split
    · exact Nat.le_refl _
    · exact Nat.le.intro count
  | succ left ih =>
    by_cases passes : PollPasses isWord config (probe attempt target current)
    · rw [pollFrom_passes passes]
      exact Nat.le_refl _
    · rw [pollFrom_fails passes]
      have later : attempt + 1 ≤ (pollFrom isWord probe target config step maxAttempts startedAt
          (attempt + 1) left (current + step)).attempts := ih (by omega)
      omega

/-- Only the polls up to the last one that was made matter. -/
lemma pollFrom_congr
    (same : ∀ j, attempt + j ≤ (pollFrom isWord probe target config step maxAttempts startedAt
      attempt left current).attempts →
      probe' (attempt + j) target (pollInstant current step j) =
        probe (attempt + j) target (pollInstant current step j))
    (count : attempt + left = maxAttempts) :
    pollFrom isWord probe' target config step maxAttempts startedAt attempt left current =
      pollFrom isWord probe target config step maxAttempts startedAt attempt left current := by
  induction left generalizing attempt current with
  | zero =>
    have now := same 0
    rw [pollInstant_zero, Nat.add_zero] at now
    have e := now (le_pollFrom_attempts count)
    unfold pollFrom
    dsimp only
    rw [e]
  | succ left ih =>
    have now := same 0
    rw [pollInstant_zero, Nat.add_zero] at now
    by_cases passes : PollPasses isWord config (probe attempt target current)
    · have e := now (by rw [pollFrom_passes passes]; exact Nat.le_refl _)
      rw [pollFrom_passes passes, pollFrom_passes (by rw [e]; exact passes), e]
    · rw [pollFrom_fails passes] at same now ⊢
      have later : attempt + 1 ≤ (pollFrom isWord probe target config step maxAttempts startedAt
          (attempt + 1) left (current + step)).attempts := le_pollFrom_attempts (by omega)
      have e := now (by omega)
      rw [pollFrom_fails (by rw [e]; exact passes)]
      apply ih
      · intro j before
        have later := same (j + 1)
        rw [pollInstant_succ, show attempt + (j + 1) = attempt + 1 + j by omega] at later
        exact later before
      · omega

/-- The polls stay within the window. -/
lemma lastPoll_mul_le (interval : config.val.pollIntervalSeconds = .fin q) :
    (lastPoll config q : ℚ) * q ≤ config.val.timeoutSeconds := by
  have pos := pollInterval_pos interval
  obtain ⟨⟨least, _⟩, _⟩ := config.valid
  have nonneg : 0 ≤ (config.val.timeoutSeconds : ℚ) / q :=
    div_nonneg (by exact_mod_cast (by omega : (0 : Int) ≤ config.val.timeoutSeconds)) pos.le
  exact (le_div_iff₀ pos).mp (Nat.floor_le nonneg)

/-- Rounding keeps the sign. -/
lemma roundHalfEven_nonneg (h : 0 ≤ q) : 0 ≤ Py.roundHalfEven q := by
  have whole : 0 ≤ q.floor := Int.floor_nonneg.mpr h
  unfold Py.roundHalfEven
  dsimp only
  repeat' split
  all_goals omega

/-- A later poll comes no earlier. -/
lemma pollInstant_mono (forward : 0 ≤ step) {j k : Nat} (h : j ≤ k) :
    pollInstant startedAt step j ≤ pollInstant startedAt step k := by
  unfold pollInstant
  have counts : (j : Int) ≤ k := by exact_mod_cast h
  exact Int.add_le_add_left (mul_le_mul_of_nonneg_right counts forward) startedAt

end

/-- Rounding adds less than one. -/
lemma roundHalfEven_le {q : ℚ} : Py.roundHalfEven q ≤ q.floor + 1 := by
  unfold Py.roundHalfEven
  dsimp only
  repeat' split
  all_goals omega

/-- A number below a power of ten is written with one decimal in that many digits and three more
characters. -/
lemma length_fixed_le {q : ℚ} {e : Nat} (nonneg : 0 ≤ q) (bound : q * 10 + 1 < 10 ^ e)
    (digits : 0 < e) : (Py.fixed 1 q).length ≤ e + 3 := by
  have scaled : (Py.roundHalfEven (|q| * 10 ^ 1)).toNat < 10 ^ e := by
    have rounded : ((Py.roundHalfEven (|q| * 10 ^ 1) : Int) : ℚ) < 10 ^ e := by
      have most : ((Py.roundHalfEven (|q| * 10 ^ 1) : Int) : ℚ) ≤ |q| * 10 ^ 1 + 1 :=
        (Int.cast_le.mpr roundHalfEven_le).trans (by
          push_cast
          exact add_le_add_left (Int.floor_le _) 1)
      rw [abs_of_nonneg nonneg, pow_one] at most ⊢
      exact most.trans_lt bound
    have whole : Py.roundHalfEven (|q| * 10 ^ 1) < ((10 ^ e : Nat) : Int) := by
      exact_mod_cast rounded
    exact (Int.toNat_lt' (by positivity)).mpr whole
  unfold Py.fixed
  dsimp only
  generalize (Py.roundHalfEven (|q| * 10 ^ 1)).toNat = n at scaled
  have integral : (toString (n / 10 ^ 1)).length ≤ e :=
    Nat.repr_length _ _ digits ((Nat.div_le_self _ _).trans_lt scaled)
  have decimal : (Py.padZeros 1 (n % 10 ^ 1)).length ≤ 1 := by
    have one : (toString (n % 10 ^ 1)).length ≤ 1 :=
      Nat.repr_length _ _ Nat.one_pos (Nat.mod_lt _ (by decide))
    unfold Py.padZeros
    rw [← String.length_toList] at one
    rw [String.length_ofList, List.length_append, List.length_replicate]
    omega
  have point : ".".length = 1 := by decide
  rw [if_neg (not_lt.mpr nonneg), if_neg Nat.one_ne_zero]
  simp only [String.length_append, String.length_empty, point]
  omega

/-- A short duration is written in a few characters. -/
lemma length_recovered_detail {elapsed : Int} (nonneg : 0 ≤ elapsed)
    (bound : elapsed < 10 ^ 18) :
    (s!"recovered {Py.fixed 1 ((elapsed : ℚ) / 1000000)}s after remediation").length ≤ 2000 := by
  have written : (Py.fixed 1 ((elapsed : ℚ) / 1000000)).length ≤ 20 + 3 := by
    have above : (0 : ℚ) ≤ elapsed := by exact_mod_cast nonneg
    have below : (elapsed : ℚ) < 10 ^ 18 := by exact_mod_cast bound
    refine length_fixed_le (by positivity) ?_ (by decide)
    linarith
  have head : "recovered ".length = 10 := by decide
  have tail_ : "s after remediation".length = 19 := by decide
  show ("recovered " ++ Py.fixed 1 _ ++ "s after remediation").length ≤ 2000
  rw [String.length_append, String.length_append]
  omega

section
variable {state : SimulationState} {r now : Instant}

/-- When a poll of a remediated target that can recover passes. -/
lemma simulated_passes
    (thresholds : config.val = { timeoutSeconds := config.val.timeoutSeconds
                                 pollIntervalSeconds := config.val.pollIntervalSeconds })
    (running : (state.service target.val.serviceName).running = true)
    (replicas : 1 ≤ (state.service target.val.serviceName).replicas)
    (curable : (state.service target.val.serviceName).chronicFault = false)
    (remediated : (state.service target.val.serviceName).recoveryStartedAt = some r)
    (after : r ≤ now) (dates : IsDatetime r ∧ IsDatetime now) :
    PollPasses isWord config (simulatedProbe state attempt target now) ↔
      r + (state.service target.val.serviceName).recoveryDelay ≤ now := by
  have elapsed : max 0 (now - r) = now - r := max_eq_right (sub_nonneg.mpr after)
  unfold simulatedProbe
  generalize state.service target.val.serviceName = s at *
  simp only [running, curable, remediated, elapsed, Bool.true_eq_false, Bool.false_eq_true, if_false,
    false_or, not_lt.mpr replicas]
  rw [← le_sub_iff_add_le']
  by_cases recovered : s.recoveryDelay ≤ now - r
  · rw [if_pos recovered]
    refine iff_of_true ?_ recovered
    have span : now - r < 10 ^ 18 := by
      have first : -62135596800000000 ≤ r := dates.1.1
      have last : now < 253402300800000000 := dates.2.2
      linarith
    refine ⟨⟨_, ?valid⟩, construct_eq_some.mpr rfl, ?passes⟩
    case valid =>
      have rates : PyFloat.Between (.fin 0) (.fin (3 / 1000)) (.fin 1) ∧
          PyFloat.Between (.fin 0) (.fin (Py.roundTo 4 (1 - 3 / 1000))) (.fin 1) ∧
          PyFloat.Between (.fin 0) (.fin 135) .posInf := by decide +kernel
      exact ⟨le_max_left _ _, rates.1, rates.2.1, rates.2.2,
        length_recovered_detail (sub_nonneg.mpr after) span⟩
    case passes =>
      have within : (PyFloat.fin (3 / 1000)).le (.fin (5 / 100)) = true ∧
          (PyFloat.fin 135).le (.fin 750) = true := by decide +kernel
      rw [passesChecks_iff, thresholds]
      exact ⟨rfl, within.1, within.2, fun _ => rfl⟩
  · rw [if_neg recovered]
    refine iff_of_false ?_ recovered
    rintro ⟨snapshot, built, passes⟩
    have fields := construct_eq_some.mp built
    rw [passesChecks_iff, ← fields, thresholds] at passes
    exact Bool.false_ne_true (passes.2.2.2 rfl)

end

/-- A service whose health is verified. -/
def ordersService : ServiceTarget :=
  ⟨{ serviceName := "orders-service", environment := "development" }, by decide⟩

/-- A snapshot meets every configured threshold. -/
def MeetsThresholds (config : RecoveryVerificationConfig) (s : HealthSnapshot) : Prop :=
  s.val.running = true ∧ s.val.errorRate.le config.val.maxErrorRate = true ∧
    config.val.minSuccessRate.le s.val.successRate = true ∧
    s.val.latencyP95Ms.le config.val.maxLatencyP95Ms = true ∧
    config.val.minReplicas ≤ s.val.replicasAvailable ∧
    (config.val.requireReady = true → s.val.ready = true)

/-- The thresholds that no check consults. -/
def MeetsUnchecked (config : RecoveryVerificationConfig) (s : HealthSnapshot) : Prop :=
  config.val.minSuccessRate.le s.val.successRate = true ∧
    config.val.minReplicas ≤ s.val.replicasAvailable

/-- A snapshot meets every threshold when it passes the checks and meets the others too. -/
lemma meetsThresholds_iff {s : HealthSnapshot} : MeetsThresholds config s ↔
    PassesChecks isWord config s ∧ MeetsUnchecked config s := by
  rw [passesChecks_iff]
  unfold MeetsThresholds MeetsUnchecked
  tauto

/-- A verdict of recovery means that some poll met every configured threshold exactly when the first
snapshot that passes the checks has the required success rate and the required replicas. -/
theorem recovered_iff (isWord : WordTable) (probe : Probe) (target : ServiceTarget)
    (config : RecoveryVerificationConfig) (startedAt : Instant) (step : Int) (polls : Nat)
    (stepped : config.pollStep = .ok step) (counted : config.maxAttempts = .ok polls) :
    (∀ o, verify isWord probe target config startedAt = .ok o → o.status = .recovered →
      ∃ k < o.attempts, ∃ s, answer probe target startedAt step k = some s ∧
        MeetsThresholds config s) ↔
    ∀ k < polls, ∀ s, answer probe target startedAt step k = some s →
      PassesChecks isWord config s →
      (∀ j < k, ¬ PollPasses isWord config (answer probe target startedAt step j)) →
      MeetsUnchecked config s := by
  obtain ⟨n, rfl⟩ : ∃ n, polls = n + 1 := by
    have least : 1 ≤ polls := by
      unfold RecoveryVerificationConfig.maxAttempts at counted
      obtain ⟨quotient, _, counted⟩ := Except.bind_eq_ok.mp counted
      cases counted
      exact Nat.le_max_left _ _
    exact ⟨polls - 1, by omega⟩
  have verified : verify isWord probe target config startedAt =
      .ok (pollFrom isWord probe target config step (n + 1) startedAt 1 n startedAt) := by
    unfold verify
    rw [stepped, counted]
    rfl
  have ends : EndsAtFirst _ _ _
    (pollFrom isWord probe target config step (n + 1) startedAt 1 n startedAt) := pollFrom_endsAtFirst
  constructor
  · intro sound k within s answered passes first
    obtain ⟨recovered, attempts, _⟩ :=
      ends.recovered k (Nat.le_of_lt_succ within) ⟨s, answered, passes⟩ first
    obtain ⟨j, before, s', answered', meets⟩ := sound _ verified recovered
    rw [attempts] at before
    obtain ⟨passes', unchecked⟩ := meetsThresholds_iff.mp meets
    -- no earlier poll passes, so the one that meets every threshold is this one
    obtain earlier | rfl := Nat.lt_or_eq_of_le (Nat.le_of_lt_succ before)
    · exact absurd ⟨s', answered', passes'⟩ (first j earlier)
    · cases answered.symm.trans answered'
      exact unchecked
  · intro unchecked o returned recovered
    cases verified.symm.trans returned
    obtain ⟨k, within, ⟨s, answered, passes⟩, first, attempts⟩ := ends.first_of_recovered recovered
    refine ⟨k, by omega, s, answered, meetsThresholds_iff.mpr ⟨passes, ?_⟩⟩
    exact unchecked k (Nat.lt_succ_of_le within) s answered passes first

/-- A service that is up, with the given success rate and replicas. -/
def upSnapshot (successRate : ℚ) (replicas : Nat)
    (valid : PyFloat.Between (.fin 0) (.fin successRate) (.fin 1) := by decide +kernel) :
    HealthSnapshot where
  val :=
    { service := "orders-service"
      environment := "development"
      status := .healthy
      ready := true
      running := true
      replicasAvailable := replicas
      errorRate := .fin 0
      successRate := .fin successRate
      latencyP95Ms := .fin 110
      detail := ""
      observedAt := 0 }
  valid := by
    have rates : PyFloat.Between (.fin 0) (.fin 0) (.fin 1) ∧
        PyFloat.Between (.fin 0) (.fin 110) .posInf := by decide +kernel
    exact ⟨Int.natCast_nonneg _, rates.1, valid, rates.2, Nat.zero_le _⟩

/-- A probe that always answers with the same snapshot. -/
def steady (s : HealthSnapshot) : Probe := fun _ _ _ => some s

/-- A service whose snapshot passes the checks is declared recovered. -/
lemma verify_steady {s : HealthSnapshot}
    (checks : PassesChecks (fun _ => true) defaultRecoveryConfig s) :
    ∃ o, verify (fun _ => true) (steady s) ordersService defaultRecoveryConfig 0 = .ok o ∧
      o.status = .recovered := by
  have passes : PollPasses (fun _ => true) defaultRecoveryConfig (some s) := ⟨_, rfl, checks⟩
  obtain ⟨step, n, verified⟩ : ∃ step n, verify (fun _ => true) (steady s)
      ordersService defaultRecoveryConfig 0 = .ok (pollFrom (fun _ => true)
        (steady s) ordersService defaultRecoveryConfig step (n + 1) 0 1 n 0) :=
    ⟨_, _, verify_eq rfl (by decide +kernel)⟩
  exact ⟨_, verified, (pollFrom_endsAtFirst.recovered 0 (Nat.zero_le _) passes
    (fun j before => absurd before (Nat.not_lt_zero j))).1⟩

/-- A service with every request answered and three replicas is recovered by every threshold. -/
theorem recovered_iff_up : ∃ o,
    verify (fun _ => true) (steady (upSnapshot 1 3)) ordersService defaultRecoveryConfig 0 =
      .ok o ∧ o.status = .recovered ∧ ∃ k < o.attempts, ∃ s,
        answer (steady (upSnapshot 1 3)) ordersService 0 3000000 k = some s ∧
          MeetsThresholds defaultRecoveryConfig s := by
  obtain ⟨o, verified, recovered⟩ :=
    verify_steady (s := upSnapshot 1 3) (passesChecks_iff.mpr (by decide +kernel))
  refine ⟨o, verified, recovered, ?_⟩
  refine (recovered_iff _ _ _ _ 0 3000000 11 (by decide +kernel) (by decide +kernel)).mpr ?_ o
    verified recovered
  intro k _ s answered _ _
  cases answered
  exact ⟨by decide +kernel, by decide +kernel⟩

/-- A service without a single successful request and without replicas is declared recovered. -/
theorem recovered_unsuccessful : ∃ o,
    verify (fun _ => true) (steady (upSnapshot 0 0)) ordersService defaultRecoveryConfig 0 =
      .ok o ∧ o.status = .recovered ∧ ¬ ∃ k < o.attempts, ∃ s,
        answer (steady (upSnapshot 0 0)) ordersService 0 3000000 k = some s ∧
          MeetsThresholds defaultRecoveryConfig s := by
  obtain ⟨o, verified, recovered⟩ :=
    verify_steady (s := upSnapshot 0 0) (passesChecks_iff.mpr (by decide +kernel))
  refine ⟨o, verified, recovered, ?_⟩
  rintro ⟨k, _, s, answered, meets⟩
  cases answered
  exact absurd meets.2.2.1 (by decide +kernel)

end SentinelOps.Remediation
