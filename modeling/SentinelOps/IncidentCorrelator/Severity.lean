import SentinelOps.IncidentCorrelator.Domain

/-!
# The severity engine

A fixed list of rules over the aggregates of an incident. The level is the highest one whose rule
fires, and the reasons are those of the rules that fired at that level.
-/

namespace SentinelOps.IncidentCorrelator

/-- `SeverityConfig`. -/
structure SeverityConfig where
  anomalyCountMedium : Int := 3
  distinctSignalsMedium : Int := 2
  errorRateHigh : PyFloat := .nearest (1 / 10)
  latencyP95HighMs : PyFloat := .fin 500
  durationHighSeconds : PyFloat := .fin 120
  errorRateCritical : PyFloat := .nearest (3 / 10)
  durationCriticalSeconds : PyFloat := .fin 300
  distinctSignalsCritical : Int := 2

/-- `SeverityInputs`. -/
structure SeverityInputs where
  anomalyCount : Nat
  distinctAbnormalSignals : Nat
  maxAnomalyScore : PyFloat
  maxErrorRate : PyFloat
  maxLatencyP95Ms : PyFloat
  durationSeconds : PyFloat

/-- `SeverityVerdict`. -/
structure SeverityVerdict where
  level : Severity
  reasons : List String
  deriving DecidableEq

/-- A rule that fires under a condition. -/
def rule (fires : Prop) [Decidable fires] (level : Severity) (reason : String) :
    List (Severity × String) :=
  if fires then [(level, reason)] else []

/-- The rules that fire, in order. -/
def firedRules (inputs : SeverityInputs) (cfg : SeverityConfig) : List (Severity × String) :=
  rule (1 ≤ inputs.anomalyCount) .low s!"{inputs.anomalyCount} anomaly window(s)" ++
  rule (cfg.anomalyCountMedium ≤ inputs.anomalyCount) .medium
    s!"sustained: >= {cfg.anomalyCountMedium} anomaly windows" ++
  rule (cfg.distinctSignalsMedium ≤ inputs.distinctAbnormalSignals) .medium
    s!"{inputs.distinctAbnormalSignals} distinct signals abnormal" ++
  rule (cfg.errorRateHigh.le inputs.maxErrorRate = true) .high
    s!"error rate {inputs.maxErrorRate.percent 0} >= {cfg.errorRateHigh.percent 0}" ++
  rule (cfg.latencyP95HighMs.le inputs.maxLatencyP95Ms = true) .high
    s!"p95 latency {inputs.maxLatencyP95Ms.fixed 0}ms >= {cfg.latencyP95HighMs.fixed 0}ms" ++
  rule (cfg.durationHighSeconds.le inputs.durationSeconds = true) .high
    s!"duration {inputs.durationSeconds.fixed 0}s >= {cfg.durationHighSeconds.fixed 0}s" ++
  rule (cfg.errorRateCritical.le inputs.maxErrorRate = true) .critical
    s!"error rate {inputs.maxErrorRate.percent 0} >= {cfg.errorRateCritical.percent 0}" ++
  rule (cfg.durationCriticalSeconds.le inputs.durationSeconds = true ∧
      cfg.distinctSignalsCritical ≤ inputs.distinctAbnormalSignals) .critical
    s!"multi-signal degradation sustained >= {cfg.durationCriticalSeconds.fixed 0}s"

/-- `max(levels, key=rank)`, of a list with a first element. -/
def topLevel (first : Severity) (levels : List Severity) : Severity :=
  levels.foldl (fun top s => if top.rank < s.rank then s else top) first

/-- `evaluate_severity`. -/
def evaluateSeverity (inputs : SeverityInputs) (cfg : SeverityConfig) : SeverityVerdict :=
  match firedRules inputs cfg with
  | [] => { level := .info, reasons := ["no rules fired"] }
  | (first, reason) :: rest =>
    let top := topLevel first (rest.map (·.1))
    { level := top
      reasons := (((first, reason) :: rest).filter fun f => decide (f.1 = top)).map (·.2) }

end SentinelOps.IncidentCorrelator
