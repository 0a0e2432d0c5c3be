import SentinelOps.Remediation.Executor
import SentinelOps.Remediation.Redaction
import SentinelOps.Lib.PyFloat

/-!
# Recovery verification

The health snapshot and the simulated probe, the verifier's own thresholds (`evaluateChecks`) and
its bounded poll loop (`pollFrom`, `verify`). A probe answers one poll of one target at one instant;
a probe that raises answers nothing, which is a failed poll. Verification itself raises where the
number of its polls is not an integer (`verify_eq_ok`); otherwise `verify_sound` is what the service
relies on: the outcome is one of the two terminal verdicts, within all bounds.
-/

namespace SentinelOps.Remediation

/-- `VERIFIER_TYPE_LOCAL`. -/
def verifierTypeLocal : String := "DETERMINISTIC_LOCAL"

/-- `VERIFIER_VERSION`. -/
def verifierVersion : String := "1"

/-- The verifier's names fit their columns. -/
lemma verifier_bounds : verifierTypeLocal.length ≤ 32 ∧ verifierVersion.length ≤ 16 := by
  decide

/-- `VERIFICATION_ID_RE`. -/
def isVerificationId : String → Bool := matchesId "ver_" 16 16

/-- `new_verification_id`. -/
def newVerificationId (t : Token) : String := "ver_" ++ t.text

/-- Status of a verification attempt. -/
inductive VerificationStatus where
  | started
  | recovered
  | recoveryFailed
  deriving DecidableEq

instance : StrEnum VerificationStatus where
  members := [.started, .recovered, .recoveryFailed]
  str
    | .started => "STARTED"
    | .recovered => "RECOVERED"
    | .recoveryFailed => "RECOVERY_FAILED"
  complete a := by cases a <;> decide
  distinct := by decide

/-- The probe's own assessment; the verifier never trusts it for the verdict. -/
inductive HealthStatus where
  | healthy
  | degraded
  | unhealthy
  deriving DecidableEq

instance : StrEnum HealthStatus where
  members := [.healthy, .degraded, .unhealthy]
  str
    | .healthy => "HEALTHY"
    | .degraded => "DEGRADED"
    | .unhealthy => "UNHEALTHY"
  complete a := by cases a <;> decide
  distinct := by decide

/-- The fields of a health observation. -/
structure HealthFields where
  service : String
  environment : String
  status : HealthStatus
  ready : Bool
  running : Bool
  replicasAvailable : Int
  errorRate : PyFloat
  successRate : PyFloat
  latencyP95Ms : PyFloat
  detail : String
  observedAt : Instant

instance : Schema HealthFields where
  Valid h := 0 ≤ h.replicasAvailable ∧ PyFloat.Between (.fin 0) h.errorRate (.fin 1) ∧
    PyFloat.Between (.fin 0) h.successRate (.fin 1) ∧
    PyFloat.Between (.fin 0) h.latencyP95Ms .posInf ∧ h.detail.length ≤ 2000
  decidable _ := inferInstanceAs (Decidable (_ ∧ _ ∧ _ ∧ _ ∧ _))

/-- One observation of a target's health. -/
abbrev HealthSnapshot := Validated HealthFields

/-- One pass/fail evaluation against a threshold of the verifier. -/
structure RecoveryCheck where
  name : String
  passed : Bool
  observed : String
  threshold : String
  detail : String
  deriving DecidableEq

/-- `Field(gt=0.0, le=600.0)` on a poll interval. -/
def pollIntervalOk (x : PyFloat) : Prop :=
  PyFloat.Above (.fin 0) x ∧ (PyFloat.fin 600).lt x = false

instance {x} : Decidable (pollIntervalOk x) := inferInstanceAs (Decidable (_ ∧ _))

/-- The fields of the verification configuration. -/
structure RecoveryConfigFields where
  timeoutSeconds : Int := 30
  pollIntervalSeconds : PyFloat := .fin 3
  maxErrorRate : PyFloat := .fin (5 / 100)
  minSuccessRate : PyFloat := .fin (95 / 100)
  maxLatencyP95Ms : PyFloat := .fin 750
  minReplicas : Int := 1
  requireReady : Bool := true

instance : Schema RecoveryConfigFields where
  Valid c := (1 ≤ c.timeoutSeconds ∧ c.timeoutSeconds ≤ 3600) ∧
    pollIntervalOk c.pollIntervalSeconds ∧ PyFloat.Between (.fin 0) c.maxErrorRate (.fin 1) ∧
    PyFloat.Between (.fin 0) c.minSuccessRate (.fin 1) ∧
    PyFloat.Above (.fin 0) c.maxLatencyP95Ms ∧ 1 ≤ c.minReplicas
  decidable _ := inferInstanceAs (Decidable (_ ∧ _ ∧ _ ∧ _ ∧ _ ∧ _))

/-- Bounded, immutable knobs for one verification run. -/
abbrev RecoveryVerificationConfig := Validated RecoveryConfigFields

/-- The configuration with every default. -/
def defaultRecoveryConfig : RecoveryVerificationConfig where
  val := {}
  valid := by decide +kernel

/-- An exception of the float arithmetic. -/
def raiseFloat {α : Type} : Except String α → Except Error α
  | .ok a => .ok a
  | .error text => .error ⟨.other, text⟩

/-- `max_attempts`. -/
def RecoveryVerificationConfig.maxAttempts (c : RecoveryVerificationConfig) : Except Error Nat := do
  let quotient ← raiseFloat (c.val.pollIntervalSeconds.intFloorDiv c.val.timeoutSeconds)
  return max 1 (quotient + 1).toNat

/-- `timedelta(seconds=config.poll_interval_seconds)`. -/
def RecoveryVerificationConfig.pollStep (c : RecoveryVerificationConfig) : Except Error Int :=
  raiseFloat c.val.pollIntervalSeconds.timedelta

/-- What the verifier returns: the verdict with its evidence. -/
structure RecoveryOutcome where
  status : VerificationStatus
  checks : List RecoveryCheck
  attempts : Nat
  firstHealthyAt : Option Instant
  failureReason : Option String
  probeStatus : HealthStatus
  verifierType : String
  verifierVersion : String
  startedAt : Instant
  completedAt : Instant

/-- `outcome.recovered`. -/
def RecoveryOutcome.recovered (o : RecoveryOutcome) : Bool := decide (o.status = .recovered)

/-- `outcome.checks_passed`. -/
def RecoveryOutcome.checksPassed (o : RecoveryOutcome) : Nat := o.checks.countP (·.passed)

/-- The fields of a persisted verification. -/
structure VerificationFields where
  verificationId : String
  remediationId : String
  executionId : String
  status : VerificationStatus
  verifierType : String
  verifierVersion : String
  attempts : Nat
  checks : List RecoveryCheck
  failureReason : Option String
  timeoutSeconds : Int
  pollIntervalSeconds : PyFloat
  metadata : Dict String Scalar
  startedAt : Instant
  completedAt : Option Instant

/-- The length bounds of a check. -/
def RecoveryCheck.ok (c : RecoveryCheck) : Bool :=
  c.name.length ≤ 64 && c.observed.length ≤ 200 && c.threshold.length ≤ 200 &&
    c.detail.length ≤ 500

instance : Schema VerificationFields where
  Valid v := isVerificationId v.verificationId = true ∧
    (v.verifierType.length ≤ 32 ∧ v.verifierVersion.length ≤ 16) ∧
    (∀ c ∈ v.checks, c.ok = true) ∧ (∀ r ∈ v.failureReason, r.length ≤ 1000) ∧
    (1 ≤ v.timeoutSeconds ∧ v.timeoutSeconds ≤ 3600) ∧ pollIntervalOk v.pollIntervalSeconds
  decidable _ := inferInstanceAs (Decidable (_ ∧ _ ∧ _ ∧ _ ∧ _ ∧ _))

/-- The persisted shape of one recovery verification. -/
abbrev VerificationResult := Validated VerificationFields

/-- A health probe: the answer to the poll with the given number, or nothing when it raises. -/
abbrev Probe := Nat → ServiceTarget → Instant → Option HealthSnapshot

/-- `_snap`. -/
def snap (target : ServiceTarget) (now : Instant) (status : HealthStatus) (ready running : Bool)
    (replicas : Int) (errorRate latency : ℚ) (detail : String) : Option HealthSnapshot :=
  construct
    { service := target.val.serviceName
      environment := target.val.environment
      status
      ready
      running
      replicasAvailable := max 0 replicas
      errorRate := .fin errorRate
      successRate := .fin (Py.roundTo 4 (1 - errorRate))
      latencyP95Ms := .fin latency
      detail
      observedAt := now }

/-- `SimulatedHealthProbe.probe`: health as a function of the executor's simulation state. -/
def simulatedProbe (state : SimulationState) : Probe := fun _ target now =>
  let s := state.service target.val.serviceName
  if s.running = false ∨ s.replicas < 1 then
    snap target now .unhealthy false s.running s.replicas 1 8000
      "target service is not running or has no replicas"
  else if s.chronicFault = true then
    snap target now .degraded false true s.replicas (37 / 100) 2100
      "service still failing after remediation; root cause not addressed"
  else
    match s.recoveryStartedAt with
    | none =>
      if s.faulted = true then
        snap target now .degraded false true s.replicas (42 / 100) 2600
          "incident active; no remediation applied yet"
      else snap target now .healthy true true s.replicas (2 / 1000) 110 "nominal"
    | some since =>
      let elapsed := max 0 (now - since)
      if s.recoveryDelay ≤ elapsed then
        snap target now .healthy true true s.replicas (3 / 1000) 135
          s!"recovered {Py.fixed 1 ((elapsed : ℚ) / 1000000)}s after remediation"
      else
        let frac : ℚ := if 0 < s.recoveryDelay then (elapsed : ℚ) / s.recoveryDelay else 1
        snap target now .degraded false true s.replicas
          (Py.roundTo 4 (30 / 100 * (1 - frac) + 1 / 100)) (Py.roundTo 1 (1600 * (1 - frac) + 150))
          s!"converging ({Py.fixed 0 (frac * 100)}% through the expected recovery window)"

section
variable (isWord : WordTable)

/-- `_check`. -/
def check (name : String) (passed : Bool) (observed threshold detail : String) : RecoveryCheck where
  name
  passed
  observed := Py.takeFirst 200 (redactText isWord observed)
  threshold := Py.takeFirst 200 threshold
  detail := Py.takeFirst 500 (redactText isWord detail)

/-- `_evaluate`: the verifier's own thresholds. -/
def evaluateChecks (snapshot : HealthSnapshot) (config : RecoveryVerificationConfig) :
    List RecoveryCheck :=
  let s := snapshot.val
  let c := config.val
  [check isWord "service_running" s.running (Py.boolStr s.running) "running is True"
      "the target service process is up",
    check isWord "error_rate" (s.errorRate.le c.maxErrorRate) (s.errorRate.fixed 4)
      s!"<= {c.maxErrorRate.text}" "request error rate is within the recovery threshold",
    check isWord "latency_p95" (s.latencyP95Ms.le c.maxLatencyP95Ms)
      s!"{s.latencyP95Ms.fixed 1}ms" s!"<= {c.maxLatencyP95Ms.text}ms"
      "p95 latency is within the recovery threshold"] ++
  (if c.requireReady = true then
    [check isWord "readiness" s.ready (Py.boolStr s.ready) "ready is True"
      "the target service reports ready"]
  else [])

/-- `_probe_error_check`. -/
def probeErrorCheck (message : String) : RecoveryCheck where
  name := "probe_error"
  passed := false
  observed := "error"
  threshold := "probe returns a snapshot"
  detail := Py.takeFirst 500 (redactText isWord message)

/-- What one poll yields: the probe's status, its detail and the evaluated checks. -/
def poll (config : RecoveryVerificationConfig) :
    Option HealthSnapshot → HealthStatus × String × List RecoveryCheck
  | some s => (s.val.status, s.val.detail, evaluateChecks isWord s config)
  | none =>
    let detail := "health probe raised while observing the target"
    (.unhealthy, detail, [probeErrorCheck isWord detail])

/-- The failure reason of an exhausted window. -/
def failureReason (config : RecoveryVerificationConfig) (maxAttempts : Nat)
    (checks : List RecoveryCheck) (lastDetail : String) : String :=
  let failed := (checks.filter fun c => !c.passed).map (·.name)
  let names := Py.orElse (Py.join ", " failed) "none"
  redactText isWord (s!"recovery not observed within {config.val.timeoutSeconds}s "
    ++ s!"({maxAttempts} polls); failing checks: {names}; "
    ++ s!"last health detail: {Py.takeFirst 300 (redactText isWord lastDetail)}")

/-- The outcome of a poll that passed every check. -/
def recoveredOutcome (startedAt : Instant) (attempt : Nat) (current : Instant)
    (polled : HealthStatus × String × List RecoveryCheck) : RecoveryOutcome where
  status := .recovered
  checks := polled.2.2
  attempts := attempt
  firstHealthyAt := some current
  failureReason := none
  probeStatus := polled.1
  verifierType := verifierTypeLocal
  verifierVersion := Remediation.verifierVersion
  startedAt
  completedAt := current

/-- The outcome of an exhausted window, after its last poll. -/
def exhaustedOutcome (config : RecoveryVerificationConfig) (maxAttempts : Nat)
    (startedAt current : Instant) (polled : HealthStatus × String × List RecoveryCheck) : RecoveryOutcome where
  status := .recoveryFailed
  checks := polled.2.2
  attempts := maxAttempts
  firstHealthyAt := none
  failureReason := some (failureReason isWord config maxAttempts polled.2.2 polled.2.1)
  probeStatus := polled.1
  verifierType := verifierTypeLocal
  verifierVersion := Remediation.verifierVersion
  startedAt
  completedAt := current

/-- The poll loop, at poll number `attempt` with `left` more polls after it. -/
def pollFrom (probe : Probe) (target : ServiceTarget) (config : RecoveryVerificationConfig)
    (step : Int) (maxAttempts : Nat) (startedAt : Instant) (attempt : Nat) (left : Nat)
    (current : Instant) : RecoveryOutcome :=
  let polled := poll isWord config (probe attempt target current)
  if polled.2.2.all (·.passed) = true then recoveredOutcome startedAt attempt current polled
  else
    match left with
    | 0 => exhaustedOutcome isWord config maxAttempts startedAt current polled
    | left + 1 =>
      pollFrom probe target config step maxAttempts startedAt (attempt + 1) left (current + step)

/-- `DeterministicRecoveryVerifier.verify`. -/
def verify (probe : Probe) (target : ServiceTarget) (config : RecoveryVerificationConfig)
    (startedAt : Instant) : Except Error RecoveryOutcome := do
  let step ← config.pollStep
  let maxAttempts ← config.maxAttempts
  return pollFrom isWord probe target config step maxAttempts startedAt 1 (maxAttempts - 1) startedAt

end

/-- Every check the verifier writes is within its length bounds. -/
lemma check_ok {isWord name passed observed threshold detail} (h : name.length ≤ 64) :
    (check isWord name passed observed threshold detail).ok = true := by
  simp [RecoveryCheck.ok, check, h, Py.length_takeFirst_le]

/-- What the service needs of an outcome: a terminal verdict, bounded texts, and a verdict that the
checks bear out. -/
structure RecoveryOutcome.Sound (o : RecoveryOutcome) : Prop where
  terminal : o.status = .recovered ∨ o.status = .recoveryFailed
  checks_ok : ∀ c ∈ o.checks, c.ok = true
  reason_le : ∀ r ∈ o.failureReason, r.length ≤ 1000
  verifier : o.verifierType = verifierTypeLocal ∧
    o.verifierVersion = Remediation.verifierVersion

/-- The checks of a poll are within their length bounds. -/
lemma poll_checks_ok {isWord config s} : ∀ c ∈ (poll isWord config s).2.2, c.ok = true := by
  cases s with
  | none =>
    intro c hc
    rw [poll, List.mem_singleton] at hc
    subst hc
    have name : "probe_error".length ≤ 64 := by decide
    have observed : "error".length ≤ 200 := by decide
    have threshold : "probe returns a snapshot".length ≤ 200 := by decide
    simp only [RecoveryCheck.ok, probeErrorCheck, name, observed, threshold,
      Py.length_takeFirst_le, decide_true, Bool.and_true]
  | some s =>
    intro c hc
    simp only [poll, evaluateChecks, List.mem_append, List.mem_cons, List.not_mem_nil, or_false] at hc
    rcases hc with (rfl | rfl | rfl) | hc
    · exact check_ok (by decide)
    · exact check_ok (by decide)
    · exact check_ok (by decide)
    · split at hc
      · rw [List.mem_singleton] at hc
        subst hc
        exact check_ok (by decide)
      · cases hc

/-- A failure reason is within its bound. -/
lemma length_failureReason_le {isWord config maxAttempts checks lastDetail} :
    (failureReason isWord config maxAttempts checks lastDetail).length ≤ 1000 := by
  unfold failureReason
  exact length_redactText_le

/-- A passed poll yields a sound outcome. -/
lemma recoveredOutcome_sound {startedAt attempt current polled}
    (h : ∀ c ∈ polled.2.2, RecoveryCheck.ok c = true) :
    (recoveredOutcome startedAt attempt current polled).Sound where
  terminal := .inl rfl
  checks_ok := h
  reason_le := by simp [recoveredOutcome]
  verifier := ⟨rfl, rfl⟩

/-- An exhausted window yields a sound outcome. -/
lemma exhaustedOutcome_sound {isWord config maxAttempts startedAt current polled}
    (h : ∀ c ∈ polled.2.2, RecoveryCheck.ok c = true) :
    (exhaustedOutcome isWord config maxAttempts startedAt current polled).Sound where
  terminal := .inr rfl
  checks_ok := h
  reason_le := by
    intro r hr
    have e : failureReason isWord config maxAttempts polled.2.2 polled.2.1 = r := Option.some.inj hr
    rw [← e]
    exact length_failureReason_le
  verifier := ⟨rfl, rfl⟩

/-- What holds of every outcome that one of the polls can end in holds of the outcome of the loop. -/
lemma pollFrom_of {P : RecoveryOutcome → Prop} {isWord probe target config step maxAttempts startedAt}
    {attempt left : Nat} {current}
    (recovered : ∀ k ≤ left, ∀ now state,
      P (recoveredOutcome startedAt (attempt + k) now (poll isWord config state)))
    (exhausted : ∀ now state,
      P (exhaustedOutcome isWord config maxAttempts startedAt now (poll isWord config state))) :
    P (pollFrom isWord probe target config step maxAttempts startedAt attempt left current) := by
  induction left generalizing attempt current with
  | zero =>
    unfold pollFrom
    dsimp only
    split
    · exact recovered 0 (Nat.le_refl 0) _ _
    · exact exhausted _ _
  | succ left ih =>
    unfold pollFrom
    dsimp only
    split
    · exact recovered 0 (Nat.zero_le _) _ _
    · apply ih
      intro k le now state
      rw [Nat.add_assoc, Nat.add_comm 1 k]
      exact recovered (k + 1) (Nat.succ_le_succ le) now state

/-- A verification that does not raise is the loop over the polls of the window. -/
lemma verify_ok {isWord probe target config startedAt outcome}
    (h : verify isWord probe target config startedAt = .ok outcome) :
    ∃ step maxAttempts, config.maxAttempts = .ok maxAttempts ∧
      outcome = pollFrom isWord probe target config step maxAttempts startedAt 1 (maxAttempts - 1)
        startedAt := by
  unfold verify at h
  obtain ⟨step, _, h⟩ := Except.bind_eq_ok.mp h
  obtain ⟨maxAttempts, made, h⟩ := Except.bind_eq_ok.mp h
  cases h
  exact ⟨step, maxAttempts, made, rfl⟩

/-- Verification that does not raise ends with a sound outcome. -/
theorem verify_sound {isWord probe target config startedAt outcome}
    (h : verify isWord probe target config startedAt = .ok outcome) : outcome.Sound := by
  obtain ⟨step, maxAttempts, _, rfl⟩ := verify_ok h
  apply pollFrom_of
  · intro k _ now state
    exact recoveredOutcome_sound poll_checks_ok
  · intro now state
    exact exhaustedOutcome_sound poll_checks_ok

/-- The number of polls has at most 320 digits. -/
lemma RecoveryVerificationConfig.maxAttempts_lt {config : RecoveryVerificationConfig} {n}
    (h : config.maxAttempts = .ok n) : n ≤ 10 ^ 320 := by
  unfold maxAttempts at h
  obtain ⟨quotient, hq, h⟩ := Except.bind_eq_ok.mp h
  cases h
  have bound : quotient < 10 ^ 320 := by
    unfold raiseFloat at hq
    split at hq
    · rename_i q e
      cases hq
      exact PyFloat.intFloorDiv_lt e
    · cases hq
  have most : quotient + 1 ≤ ((10 ^ 320 : Nat) : Int) := by
    rw [Nat.cast_pow]
    exact bound
  exact Nat.max_le.mpr ⟨Nat.one_le_pow _ _ (by decide), Int.toNat_le.mpr most⟩

/-- The number of polls of an outcome has at most 321 digits. -/
lemma verify_attempts {isWord probe target config startedAt outcome}
    (h : verify isWord probe target config startedAt = .ok outcome) : outcome.attempts ≤ 10 ^ 320 := by
  obtain ⟨step, maxAttempts, made, rfl⟩ := verify_ok h
  have pos : 1 ≤ maxAttempts := by
    unfold RecoveryVerificationConfig.maxAttempts at made
    obtain ⟨quotient, _, made⟩ := Except.bind_eq_ok.mp made
    cases made
    exact Nat.le_max_left _ _
  refine le_trans ?_ (RecoveryVerificationConfig.maxAttempts_lt made)
  apply pollFrom_of (P := fun o => o.attempts ≤ maxAttempts)
  · intro k le now state
    change 1 + k ≤ maxAttempts
    omega
  · intro now state
    exact Nat.le_refl _

/-- A poll makes at most four checks. -/
lemma length_poll_le {isWord config s} : (poll isWord config s).2.2.length ≤ 4 := by
  cases s with
  | none => exact Nat.le_of_ble_eq_true rfl
  | some s =>
    simp only [poll, evaluateChecks, List.length_append]
    split
    · exact Nat.le_refl _
    · exact Nat.le_succ _

/-- An outcome has at most four checks. -/
lemma verify_checks {isWord probe target config startedAt outcome}
    (h : verify isWord probe target config startedAt = .ok outcome) : outcome.checks.length ≤ 4 := by
  obtain ⟨step, maxAttempts, _, rfl⟩ := verify_ok h
  apply pollFrom_of (P := fun o => o.checks.length ≤ 4)
  · intro k _ now state
    exact length_poll_le
  · intro now state
    exact length_poll_le

/-- The number of polls of a configuration is an integer. -/
def RecoveryVerificationConfig.Countable (c : RecoveryVerificationConfig) : Prop :=
  ∃ q, c.val.pollIntervalSeconds = .fin q ∧ |c.val.timeoutSeconds / q| < PyFloat.overflow

/-- Verification raises exactly when the number of its polls is not an integer: when the poll
interval is a NaN or so small that the quotient overflows. -/
theorem verify_eq_ok {isWord probe target config startedAt} :
    (∃ outcome, verify isWord probe target config startedAt = .ok outcome) ↔ config.Countable := by
  unfold verify RecoveryVerificationConfig.pollStep RecoveryVerificationConfig.maxAttempts
    RecoveryVerificationConfig.Countable
  obtain ⟨_, ⟨above, below⟩, _⟩ := config.valid
  cases h : config.val.pollIntervalSeconds with
  | nan => simp [PyFloat.timedelta, raiseFloat, bind, Except.bind]
  | negInf => simp [PyFloat.timedelta, raiseFloat, bind, Except.bind]
  | posInf => simp [PyFloat.timedelta, raiseFloat, bind, Except.bind]
  | fin q =>
    have ne : q ≠ 0 := by
      rintro rfl
      rw [h] at above
      exact absurd above (by decide)
    by_cases large : PyFloat.overflow ≤ |config.val.timeoutSeconds / q|
    · simp [PyFloat.timedelta, PyFloat.intFloorDiv, raiseFloat, bind, Except.bind, ne, large]
    · simp [PyFloat.timedelta, PyFloat.intFloorDiv, raiseFloat, bind, Except.bind, ne, large,
        pure, Except.pure, not_le.mp large]

end SentinelOps.Remediation
