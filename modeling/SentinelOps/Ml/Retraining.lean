import SentinelOps.Ml.Promotion

/-!
# Retraining against a registry that may fail

`retrainPipeline` registers an evaluated candidate, asks the gate of `Promotion` about it and moves the aliases
of the registry. Every call that leaves the process may be refused or may have its answer lost. A read
of the champion that fails is taken for the absence of one, so the gate skips the comparison:
`never_regresses_iff` says when a run that replaces a champion keeps to its score.
-/

namespace SentinelOps.Ml

/-- `CANDIDATE_ALIAS`. -/
def candidateAlias : String := "candidate"

/-- `CHAMPION_ALIAS`. -/
def championAlias : String := "champion"

/-- `PREVIOUS_CHAMPION_ALIAS`. -/
def previousChampionAlias : String := "previous-champion"

/-- The registered model: the version under each alias, and the metrics logged for each version. -/
structure Registry where
  aliases : Dict String Nat := .empty
  versions : Dict Nat (Dict String PyFloat) := .empty

/-- What becomes of a call: it is done, it is refused, or it is done and its answer is lost. -/
inductive Answer where
  | done
  | refused
  | lost
  deriving DecidableEq

/-- The calls of a retraining that leave the process. -/
inductive ExternalCall where
  | logRun
  | registerModel
  | keepBaseline
  | championAlias
  | championRun
  | championVersion
  | oldChampion
  | setPreviousChampion
  | setCandidate
  | setChampion
  | tagReason
  | tagPreviousChampion
  deriving DecidableEq

/-- What becomes of each of them. -/
abbrev Behaviour := ExternalCall → Answer

namespace Registry

/-- `resolve_alias`, or nothing where it raises. -/
def resolveAlias (registry : Registry) (answer : Answer) (name : String) : Option Nat :=
  if answer = .done then registry.aliases.get? name else none

/-- `set_alias`. -/
def setAlias (registry : Registry) (answer : Answer) (version : Nat) (name : String) : Registry :=
  if answer = .refused then registry
  else { registry with aliases := registry.aliases.set name version }

/-- `register_model`, of a run with the given metrics under the version that it creates. -/
def registerModel (registry : Registry) (answer : Answer) (version : Nat)
    (metrics : Dict String PyFloat) : Registry :=
  if answer = .refused then registry
  else { registry with versions := registry.versions.set version metrics }

/-- `get_champion_metrics`. -/
def getChampionMetrics (registry : Registry) (behaviour : Behaviour) :
    Option (Dict String PyFloat) := do
  let version ← registry.resolveAlias (behaviour .championAlias) championAlias
  if behaviour .championRun = .done then registry.versions.get? version else none

/-- `promote_model`, after the old champion is kept: the registry, and whether the call returns. -/
def moveAliases (registry : Registry) (behaviour : Behaviour) (candidateVersion : Nat)
    (oldChampion : Option Nat) : Registry × Bool :=
  let registry := registry.setAlias (behaviour .setCandidate) candidateVersion candidateAlias
  if behaviour .setCandidate ≠ .done then (registry, false)
  else
    let registry := registry.setAlias (behaviour .setChampion) candidateVersion championAlias
    (registry, behaviour .setChampion = .done ∧ behaviour .tagReason = .done ∧
      (oldChampion.isSome = true → behaviour .tagPreviousChampion = .done))

/-- `promote_model`: the registry afterwards, and whether the call returns. -/
def promoteModel (registry : Registry) (behaviour : Behaviour) (candidateVersion : Nat) :
    Registry × Bool :=
  let oldChampion := registry.resolveAlias (behaviour .oldChampion) championAlias
  match oldChampion.filter (· ≠ candidateVersion) with
  | some old =>
    let registry := registry.setAlias (behaviour .setPreviousChampion) old previousChampionAlias
    if behaviour .setPreviousChampion ≠ .done then (registry, false)
    else registry.moveAliases behaviour candidateVersion oldChampion
  | none => registry.moveAliases behaviour candidateVersion oldChampion

end Registry

/-- `RetrainingConfig`. -/
structure RetrainingConfig where
  promoteIfPassing : Bool := false
  policy : PromotionPolicy := {}

/-- What `evaluate_model` returns of a candidate: the values of `pointwise`. -/
abbrev Evaluation := Dict String MetricValue

/-- `f"{value:.3f}"` returns. -/
def MetricValue.formats : MetricValue → Bool
  | .bool _ | .number _ => true
  | .none | .other => false

/-- The progress line of the evaluation can be written. -/
def Evaluation.reported (pointwise : Evaluation) : Prop :=
  (pointwise.get? "f1").any MetricValue.formats = true ∧
    (pointwise.get? "recall").any MetricValue.formats = true ∧
    (pointwise.get? "pr_auc").all MetricValue.formats = true

instance : DecidablePred Evaluation.reported := fun _ => inferInstanceAs (Decidable (_ ∧ _ ∧ _))

/-- `_numeric_metrics`. -/
def numericMetrics (pointwise : Evaluation) : Dict String PyFloat :=
  .ofList (pointwise.entries.filterMap fun e =>
    match e.2 with
    | .number x => some ("pointwise." ++ e.1, x)
    | _ => none)

/-- The mapping that the gate reads. -/
def metricValues (metrics : Dict String PyFloat) : Dict String MetricValue :=
  metrics.mapValues .number

/-- `RetrainingResult`. -/
structure RetrainingResult where
  candidateVersion : Nat
  promotionDecision : PromotionDecision
  championVersion : Option Nat
  promoted : Bool

/-- `retrain_pipeline`, after the evaluation: the registry afterwards, and the result unless it
raises. The candidate's version is the number that the registry gives it. -/
def retrainPipeline (config : RetrainingConfig) (pointwise : Evaluation) (candidateVersion : Nat)
    (behaviour : Behaviour) (registry : Registry) : Registry × Option RetrainingResult :=
  if ¬ pointwise.reported then (registry, none)
  else if behaviour .logRun ≠ .done then (registry, none)
  else
    let metrics := numericMetrics pointwise
    let registry := registry.registerModel (behaviour .registerModel) candidateVersion metrics
    if behaviour .registerModel ≠ .done ∨ behaviour .keepBaseline ≠ .done then (registry, none)
    else
      let championMetrics := registry.getChampionMetrics behaviour
      let championVersion := registry.resolveAlias (behaviour .championVersion) championAlias
      let decision := evaluateCandidate (metricValues metrics) (championMetrics.map metricValues)
        config.policy (toString candidateVersion) (championVersion.map toString)
      if config.promoteIfPassing = true ∧ decision.promote = true then
        let (registry, returned) := registry.promoteModel behaviour candidateVersion
        (registry, if returned then some ⟨candidateVersion, decision, championVersion, true⟩
          else none)
      else (registry, some ⟨candidateVersion, decision, championVersion, false⟩)

/-- The gate reads a value of the evaluation under its prefixed key. -/
lemma metric_numericMetrics {pointwise : Evaluation} {key x} :
    metric (metricValues (numericMetrics pointwise)) ("pointwise." ++ key) = some x ↔
      pointwise.get? key = some (.number x) := by
  have nodup : ((pointwise.entries.filterMap fun e => match e.2 with
      | .number x => some ("pointwise." ++ e.1, x)
      | _ => none).map Prod.fst).Nodup := by
    have keys : (pointwise.entries.map fun e => "pointwise." ++ e.1).Nodup := by
      have := pointwise.nodup.map (f := fun k => "pointwise." ++ k)
        fun a b same => String.append_right_inj _ |>.mp same
      rwa [List.map_map] at this
    refine keys.sublist ?_
    induction pointwise.entries with
    | nil => exact .slnil
    | cons e es ih =>
      obtain ⟨k, v⟩ := e
      cases v with
      | number x => exact ih.cons_cons _
      | none => exact ih.cons _
      | bool b => exact ih.cons _
      | other => exact ih.cons _
  have found : metric (metricValues (numericMetrics pointwise)) ("pointwise." ++ key) =
      (numericMetrics pointwise).get? ("pointwise." ++ key) := by
    unfold metric metricValues
    rw [Dict.get?_mapValues]
    cases (numericMetrics pointwise).get? ("pointwise." ++ key) <;> rfl
  rw [found, numericMetrics, Dict.get?_ofList nodup, Dict.get?_eq_some_iff, List.mem_filterMap]
  constructor
  · rintro ⟨⟨k, v⟩, mem, kept⟩
    cases v with
    | number y =>
      simp only [Option.some.injEq, Prod.mk.injEq] at kept
      obtain ⟨same, rfl⟩ := kept
      rw [String.append_right_inj] at same
      exact same ▸ mem
    | none => cases kept
    | bool b => cases kept
    | other => cases kept
  · intro mem
    exact ⟨_, mem, rfl⟩

/-- What an alias points at after a write of one. -/
lemma Registry.get?_setAlias {registry : Registry} {answer version name name'} :
    (registry.setAlias answer version name).aliases.get? name' =
      if answer ≠ .refused ∧ name' = name then some version else registry.aliases.get? name' := by
  unfold setAlias
  split
  · rename_i refused
    rw [if_neg (fun h => h.1 refused)]
  · rename_i written
    rw [Dict.get?_set]
    by_cases same : name' = name
    · simp [same, written]
    · rw [if_neg (fun e => same e), if_neg (fun h => same h.2)]

/-- The aliases move the champion when both writes are sent and the second is not refused. -/
lemma Registry.moveAliases_champion {registry : Registry} {behaviour candidateVersion oldChampion v}
    (champion : registry.aliases.get? championAlias = some v) (new : candidateVersion ≠ v) :
    (registry.moveAliases behaviour candidateVersion oldChampion).1.aliases.get? championAlias ≠
        some v ↔
      behaviour .setCandidate = .done ∧ behaviour .setChampion ≠ .refused := by
  have kept : (registry.setAlias (behaviour .setCandidate) candidateVersion
      candidateAlias).aliases.get? championAlias = some v := by
    rw [get?_setAlias, if_neg (fun h => absurd h.2 (by decide)), champion]
  unfold moveAliases
  dsimp only
  split
  · rename_i stopped
    simp [kept, stopped]
  · rename_i sent
    rw [not_not] at sent
    rw [get?_setAlias]
    split
    · rename_i moved
      simp [sent, moved.1, new]
    · rename_i refused
      rw [not_and_or] at refused
      have refused : behaviour .setChampion = .refused := by simpa using refused
      simp [kept, refused]

/-- `promote_model` moves the champion when the writes before the last are done. -/
lemma Registry.promoteModel_champion {registry : Registry} {behaviour candidateVersion v}
    (champion : registry.aliases.get? championAlias = some v) (new : candidateVersion ≠ v) :
    (registry.promoteModel behaviour candidateVersion).1.aliases.get? championAlias ≠ some v ↔
      (behaviour .oldChampion = .done → behaviour .setPreviousChampion = .done) ∧
        behaviour .setCandidate = .done ∧ behaviour .setChampion ≠ .refused := by
  unfold promoteModel resolveAlias
  dsimp only
  by_cases read : behaviour .oldChampion = .done
  · have other : (some v).filter (· ≠ candidateVersion) = some v := by simp [new.symm]
    have kept : (registry.setAlias (behaviour .setPreviousChampion) v
        previousChampionAlias).aliases.get? championAlias = some v := by
      rw [get?_setAlias, if_neg (fun h => absurd h.2 (by decide)), champion]
    rw [if_pos read, champion, other]
    dsimp only
    split
    · rename_i stopped
      simp [kept, read, stopped]
    · rename_i written
      rw [not_not] at written
      rw [moveAliases_champion kept new]
      simp [written]
  · rw [if_neg read]
    dsimp only [Option.filter]
    rw [moveAliases_champion champion new]
    simp [read]

/-- A retraining sends the write that moves the champion once its gate has passed. -/
structure ReachesChampion (config : RetrainingConfig) (pointwise : Evaluation)
    (behaviour : Behaviour) : Prop where
  promotes : config.promoteIfPassing = true
  reported : pointwise.reported
  logged : behaviour .logRun = .done
  registered : behaviour .registerModel = .done
  kept : behaviour .keepBaseline = .done
  previous : behaviour .oldChampion = .done → behaviour .setPreviousChampion = .done
  candidate : behaviour .setCandidate = .done
  champion : behaviour .setChampion ≠ .refused

/-- A run replaces the champion when it gets to that write and its gate passes, which knows the
champion's metrics only if both reads of them were answered. -/
lemma retrainPipeline_champion {config pointwise candidateVersion behaviour registry v m}
    (champion : registry.aliases.get? championAlias = some v)
    (logged : registry.versions.get? v = some m)
    (fresh : registry.versions.get? candidateVersion = none) :
    (retrainPipeline config pointwise candidateVersion behaviour registry).1.aliases.get?
        championAlias ≠ some v ↔
      ReachesChampion config pointwise behaviour ∧
        ClearsFloors config.policy (metricValues (numericMetrics pointwise)) ∧
        (behaviour .championAlias = .done → behaviour .championRun = .done →
          ∀ c, metric (metricValues m) f1Key = some c →
            ((metricOrZero (metricValues (numericMetrics pointwise)) f1Key).sub c).lt
              config.policy.f1RegressionTolerance.neg = false) := by
  have new : candidateVersion ≠ v := by
    rintro rfl
    rw [fresh] at logged
    cases logged
  have keeps {answer metrics} : (registry.registerModel answer candidateVersion
      metrics).aliases = registry.aliases := by
    unfold Registry.registerModel
    split <;> rfl
  -- both reads of the champion see the registry before its aliases move
  have reads {metrics} : (registry.registerModel (behaviour .registerModel) candidateVersion
      metrics).getChampionMetrics behaviour =
      if behaviour .championAlias = .done ∧ behaviour .championRun = .done then some m
      else none := by
    have version : (registry.registerModel (behaviour .registerModel) candidateVersion
        metrics).versions.get? v = some m := by
      unfold Registry.registerModel
      split
      · exact logged
      · rw [Dict.get?_set, if_neg new.symm, logged]
    unfold Registry.getChampionMetrics Registry.resolveAlias
    rw [keeps, champion]
    by_cases alias_read : behaviour .championAlias = .done
    · simp [alias_read, version]
    · simp [alias_read]
  unfold retrainPipeline
  split
  · rename_i unreported
    simp only [champion, ne_eq, not_true, false_iff]
    exact fun h => unreported h.1.reported
  · rename_i reported
    rw [not_not] at reported
    split
    · rename_i unlogged
      simp only [champion, ne_eq, not_true, false_iff]
      exact fun h => unlogged h.1.logged
    · rename_i logged_run
      rw [not_not] at logged_run
      dsimp only
      split
      · rename_i stopped
        simp only [keeps, champion, ne_eq, not_true, false_iff]
        rintro ⟨reaches, -⟩
        exact stopped.elim (· reaches.registered) (· reaches.kept)
      · rename_i registered
        rw [not_or, not_not, not_not] at registered
        split
        · rename_i gate
          obtain ⟨promotes, passes⟩ := gate
          rw [Registry.promoteModel_champion (by rw [keeps, champion]) new]
          rw [reads, evaluateCandidate_promote] at passes
          constructor
          · rintro ⟨previous, candidate, moved⟩
            refine ⟨⟨promotes, reported, logged_run, registered.1, registered.2, previous,
              candidate, moved⟩, passes.1, fun alias_read run_read => ?_⟩
            exact passes.2 _ (by rw [if_pos ⟨alias_read, run_read⟩]; rfl)
          · rintro ⟨reaches, -⟩
            exact ⟨reaches.previous, reaches.candidate, reaches.champion⟩
        · rename_i stopped
          simp only [keeps, champion, ne_eq, not_true, false_iff]
          rintro ⟨reaches, clears, compared⟩
          refine stopped ⟨reaches.promotes, ?_⟩
          rw [reads, evaluateCandidate_promote]
          refine ⟨clears, fun given read => ?_⟩
          split at read
          · rename_i answered
            cases read
            exact compared answered.1 answered.2
          · cases read

/-- A value of the evaluation is a number that is compared with its floor. -/
def Measured (pointwise : Evaluation) (key : String) (floor : PyFloat) : Prop :=
  floor ≠ .nan ∧ ∃ x, pointwise.get? key = some (.number x) ∧ x ≠ .nan

/-- The F1 of the evaluation is a number not below the champion's minus the tolerance. -/
def WithinTolerance (policy : PromotionPolicy) (pointwise : Evaluation) (championF1 : PyFloat) :
    Prop :=
  ∃ x, pointwise.get? "f1" = some (.number x) ∧
    (championF1.exactSub policy.f1RegressionTolerance).le x = true

/-- The evaluation has numbers that meet the floors, and an F1 that keeps to the champion's. -/
structure Meets (policy : PromotionPolicy) (pointwise : Evaluation) (championF1 : PyFloat) :
    Prop where
  f1 : ∃ x, pointwise.get? "f1" = some (.number x) ∧ policy.minF1.le x = true
  «recall» : ∃ x, pointwise.get? "recall" = some (.number x) ∧ policy.minRecall.le x = true
  prAuc : ∃ x, pointwise.get? "pr_auc" = some (.number x) ∧ policy.minPrAuc.le x = true
  regression : WithinTolerance policy pointwise championF1

/-- A floor that is cleared is met by a number that is compared with it, and by no other value. -/
lemma meets_floor_iff {pointwise : Evaluation} {key floor}
    (clears : (metricOrZero (metricValues (numericMetrics pointwise)) ("pointwise." ++ key)).lt
      floor = false) :
    (∃ x, pointwise.get? key = some (.number x) ∧ floor.le x = true) ↔
      Measured pointwise key floor := by
  constructor
  · rintro ⟨x, found, le⟩
    rw [PyFloat.le_iff] at le
    exact ⟨le.1, x, found, le.2.1⟩
  · rintro ⟨floor_num, x, found, num⟩
    refine ⟨x, found, ?_⟩
    rw [metricOrZero, metric_numericMetrics.mpr found] at clears
    exact PyFloat.le_iff.mpr ⟨floor_num, num, clears⟩

/-- A retraining that replaces a champion keeps to its score when the gate compares the two and
refuses, or when the candidate has numbers for all floors and itself keeps to that score. -/
theorem never_regresses_iff {config pointwise candidateVersion behaviour registry v m c}
    (champion : registry.aliases.get? championAlias = some v)
    (logged : registry.versions.get? v = some m) (score : m.get? f1Key = some c)
    (fresh : registry.versions.get? candidateVersion = none) :
    ((retrainPipeline config pointwise candidateVersion behaviour registry).1.aliases.get?
        championAlias ≠ some v → Meets config.policy pointwise c) ↔
      (ReachesChampion config pointwise behaviour →
        ClearsFloors config.policy (metricValues (numericMetrics pointwise)) →
        (behaviour .championAlias = .done ∧ behaviour .championRun = .done ∧
          ((metricOrZero (metricValues (numericMetrics pointwise)) f1Key).sub c).lt
            config.policy.f1RegressionTolerance.neg = true) ∨
        (Measured pointwise "f1" config.policy.minF1 ∧
          Measured pointwise "recall" config.policy.minRecall ∧
          Measured pointwise "pr_auc" config.policy.minPrAuc ∧
          WithinTolerance config.policy pointwise c)) := by
  have score : metric (metricValues m) f1Key = some c := by
    rw [metric, metricValues, Dict.get?_mapValues, score]
    rfl
  rw [retrainPipeline_champion champion logged fresh]
  constructor
  · intro keeps reaches clears
    by_cases refused : behaviour .championAlias = .done ∧ behaviour .championRun = .done ∧
        ((metricOrZero (metricValues (numericMetrics pointwise)) f1Key).sub c).lt
          config.policy.f1RegressionTolerance.neg = true
    · exact .inl refused
    · right
      have meets := keeps ⟨reaches, clears, fun alias_read run_read c' same => ?_⟩
      · exact ⟨(meets_floor_iff clears.f1).mp meets.f1,
          (meets_floor_iff clears.recall).mp meets.recall,
          (meets_floor_iff clears.prAuc).mp meets.prAuc, meets.regression⟩
      · cases score.symm.trans same
        rw [← Bool.not_eq_true]
        exact fun drop => refused ⟨alias_read, run_read, drop⟩
  · rintro keeps ⟨reaches, clears, compared⟩
    obtain ⟨alias_read, run_read, drop⟩ | ⟨f1, recalled, prAuc, within⟩ := keeps reaches clears
    · rw [compared alias_read run_read c score] at drop
      cases drop
    · exact ⟨(meets_floor_iff clears.f1).mpr f1, (meets_floor_iff clears.recall).mpr recalled,
        (meets_floor_iff clears.prAuc).mpr prAuc, within⟩

/-- A registry whose champion has a high F1. -/
def establishedRegistry : Registry where
  aliases := .ofList [(championAlias, 1)]
  versions := .ofList [(1, .ofList [(f1Key, .nearest 0.95)])]

/-- An evaluation that clears the floors with the given F1. -/
def evaluationWith (f1 : ℚ) : Evaluation :=
  .ofList [("f1", .number (.nearest f1)), ("recall", .number (.nearest 0.95)),
    ("pr_auc", .number (.nearest 0.7))]

/-- Where every call is done, a candidate close to the champion replaces it. -/
theorem never_regresses_iff_close :
    (retrainPipeline { promoteIfPassing := true } (evaluationWith 0.92) 2 (fun _ => .done)
        establishedRegistry).1.aliases.get? championAlias ≠ some 1 ∧
      Meets {} (evaluationWith 0.92) (.nearest 0.95) := by
  have moved : (retrainPipeline { promoteIfPassing := true } (evaluationWith 0.92) 2
      (fun _ => .done) establishedRegistry).1.aliases.get? championAlias ≠ some 1 := by
    decide +kernel
  refine ⟨moved, (never_regresses_iff (m := .ofList [(f1Key, .nearest 0.95)]) (by decide +kernel)
    (by rfl) (by decide +kernel) (by rfl)).mpr (fun _ _ => .inr ?_) moved⟩
  exact ⟨⟨by decide +kernel, _, by rfl, by decide +kernel⟩,
    ⟨by decide +kernel, _, by rfl, by decide +kernel⟩,
    ⟨by decide +kernel, _, by rfl, by decide +kernel⟩, _, by rfl, by decide +kernel⟩

/-- Where the champion's run cannot be read, a candidate far below the champion replaces it. -/
theorem not_never_regresses :
    ¬ ((retrainPipeline { promoteIfPassing := true } (evaluationWith 0.8) 2
        (fun call => if call = .championRun then .refused else .done)
        establishedRegistry).1.aliases.get? championAlias ≠ some 1 →
      Meets {} (evaluationWith 0.8) (.nearest 0.95)) := by
  intro keeps
  obtain ⟨x, found, le⟩ := (keeps (by decide +kernel)).regression
  have same : (evaluationWith 0.8).get? "f1" = some (.number (.nearest 0.8)) := by decide +kernel
  cases same.symm.trans found
  revert le
  decide +kernel

end SentinelOps.Ml
