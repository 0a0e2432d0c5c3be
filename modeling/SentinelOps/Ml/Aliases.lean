import SentinelOps.Lib.Transition
import SentinelOps.Ml.Retraining

/-!
# The aliases of promoted models

Calls of `promote_model` one after another, each of whose reads and writes may fail: `promotions` is
the machine, whose state also keeps which call set the champion last and which version was replaced.
`previousChampion_iff`: the alias of the previous champion is right throughout a run exactly when no
call replaces a champion that it could not read or stops after it kept the champion as the previous
one.
-/

namespace SentinelOps.Ml

/-- A call of `promote_model`, and how the calls to the registry end. -/
structure Promotion where
  candidateVersion : Nat
  behaviour : Behaviour

namespace Registry

/-- The version under an alias. -/
def champion (registry : Registry) : Option Nat := registry.aliases.get? championAlias

/-- The version under the other alias. -/
def previousChampion (registry : Registry) : Option Nat :=
  registry.aliases.get? previousChampionAlias

/-- The champion that a call sees, if it is not the candidate. -/
def predecessor (registry : Registry) (call : Promotion) : Option Nat :=
  (registry.resolveAlias (call.behaviour .oldChampion) championAlias).filter
    (· ≠ call.candidateVersion)

/-- The call gets to the alias of the champion and sets it. -/
def setsChampion (registry : Registry) (call : Promotion) : Bool :=
  ((registry.predecessor call).isNone || call.behaviour .setPreviousChampion = .done) &&
    call.behaviour .setCandidate = .done && call.behaviour .setChampion ≠ .refused

section
variable {registry : Registry} {behaviour : Behaviour} {call : Promotion} {version : Nat}
  {old : Option Nat}

/-- The three aliases are different. -/
lemma get?_setAlias_ne {answer name name'} (ne : name' ≠ name) :
    (registry.setAlias answer version name).aliases.get? name' = registry.aliases.get? name' := by
  rw [get?_setAlias, if_neg fun h => ne h.2]

/-- What a call leaves after the previous champion is kept. -/
lemma moveAliases_aliases : (registry.moveAliases behaviour version old).1.previousChampion =
      registry.previousChampion ∧
    (registry.moveAliases behaviour version old).1.champion =
      if behaviour .setCandidate = .done ∧ behaviour .setChampion ≠ .refused then some version
      else registry.champion := by
  unfold moveAliases champion previousChampion
  dsimp only
  split
  · rename_i stopped
    rw [get?_setAlias_ne (by decide), get?_setAlias_ne (by decide),
      if_neg fun h => stopped h.1]
    exact ⟨rfl, rfl⟩
  · rename_i sent
    rw [not_not] at sent
    rw [get?_setAlias_ne (by decide), get?_setAlias_ne (by decide), get?_setAlias,
      get?_setAlias_ne (by decide)]
    refine ⟨rfl, if_congr ?_ rfl rfl⟩
    simp [sent]

/-- The aliases after a call: the previous champion is the one it saw, unless that write is refused,
and the champion is the candidate if the call sets it. -/
lemma promoteModel_aliases :
    (registry.promoteModel call.behaviour call.candidateVersion).1.previousChampion =
      (if call.behaviour .setPreviousChampion = .refused then registry.previousChampion
      else (registry.predecessor call).or registry.previousChampion) ∧
    (registry.promoteModel call.behaviour call.candidateVersion).1.champion =
      if registry.setsChampion call = true then some call.candidateVersion
      else registry.champion := by
  have reads : (registry.resolveAlias (call.behaviour .oldChampion) championAlias).filter
      (· ≠ call.candidateVersion) = registry.predecessor call := rfl
  unfold promoteModel setsChampion
  dsimp only
  rw [reads]
  cases registry.predecessor call with
  | none =>
    dsimp only
    rw [moveAliases_aliases.1, moveAliases_aliases.2, Option.none_or, ite_self]
    exact ⟨rfl, if_congr (by simp) rfl rfl⟩
  | some kept =>
    dsimp only
    have before : (registry.setAlias (call.behaviour .setPreviousChampion) kept
        previousChampionAlias).previousChampion =
          (if call.behaviour .setPreviousChampion = .refused then registry.previousChampion
          else some kept) := by
      unfold previousChampion
      rw [get?_setAlias]
      by_cases refused : call.behaviour .setPreviousChampion = .refused
      · rw [if_pos refused, if_neg fun h => h.1 refused]
      · rw [if_neg refused, if_pos ⟨refused, rfl⟩]
    have stays : (registry.setAlias (call.behaviour .setPreviousChampion) kept
        previousChampionAlias).champion = registry.champion :=
      get?_setAlias_ne (by decide)
    rw [Option.some_or]
    split
    · rename_i stopped
      rw [before, stays]
      refine ⟨rfl, (if_neg ?_).symm⟩
      simp [stopped]
    · rename_i written
      rw [not_not] at written
      rw [moveAliases_aliases.1, moveAliases_aliases.2, before, stays]
      exact ⟨rfl, if_congr (by simp [written]) rfl rfl⟩

/-- A call sees the champion as its predecessor if the read is answered and it is another one. -/
lemma predecessor_eq_some {kept} : registry.predecessor call = some kept ↔
    call.behaviour .oldChampion = .done ∧ registry.champion = some kept ∧
      kept ≠ call.candidateVersion := by
  unfold predecessor resolveAlias champion
  rw [Option.filter_eq_some_iff]
  by_cases read : call.behaviour .oldChampion = .done
  · simp [read]
  · simp [read]

end

end Registry

/-- A registry between calls, the version that was set as champion last and the one that was
champion before the last change. -/
structure Promotions where
  registry : Registry := {}
  lastSet : Option Nat := none
  replaced : Option Nat := none

/-- Calls of `promote_model`, from a registry without aliases on. -/
def promotions : Machine Promotions Promotion where
  init s := s = {}
  step s call :=
    let registry := (s.registry.promoteModel call.behaviour call.candidateVersion).1
    some {
      registry
      lastSet := if s.registry.setsChampion call = true then some call.candidateVersion
        else s.lastSet
      replaced := if registry.champion = s.registry.champion then s.replaced
        else s.registry.champion }

/-- The champion is the version that was set last; the previous champion, if there is one, is the
version that was champion before the last change, and not the champion. -/
structure AliasesRight (s : Promotions) : Prop where
  champion : s.registry.champion = s.lastSet
  previous : ∀ p, s.registry.previousChampion = some p → s.replaced = some p
  distinct : ∀ p, s.registry.previousChampion = some p → s.registry.champion ≠ some p

/-- The call keeps a predecessor only where it goes on to replace it, and replaces no champion that
it could not read while another one is kept. -/
def KeepsTarget (s : Promotions) (call : Promotion) : Prop :=
  match s.registry.predecessor call with
  | some _ => call.behaviour .setPreviousChampion = .refused ∨ s.registry.setsChampion call = true
  | none => s.registry.setsChampion call = true → s.registry.champion ≠ none →
      s.registry.champion ≠ some call.candidateVersion → s.registry.previousChampion = none

/-- Without a champion nothing was replaced. -/
structure Tracked (s : Promotions) : Prop where
  champion : s.registry.champion = s.lastSet
  first : s.registry.champion = none →
    s.replaced = none ∧ s.registry.previousChampion = none

section
variable {s s' : Promotions} {call : Promotion}

/-- What is tracked stays so. -/
lemma Tracked.step (tracked : Tracked s) (st : promotions.step s call = some s') : Tracked s' := by
  cases st
  obtain ⟨previous, champion⟩ := @Registry.promoteModel_aliases s.registry call
  constructor
  · dsimp only
    rw [champion, tracked.champion]
  · dsimp only
    rw [champion, previous]
    intro none
    split at none
    · cases none
    · rename_i kept
      have unseen : s.registry.predecessor call = Option.none := by
        cases seen : s.registry.predecessor call with
        | none => rfl
        | some old =>
          rw [(Registry.predecessor_eq_some.mp seen).2.1] at none
          cases none
      rw [if_neg kept, if_pos rfl, unseen, Option.none_or, ite_self]
      exact tracked.first none

/-- A call that moves no alias leaves the aliases right. -/
lemma AliasesRight.unmoved (right : AliasesRight s) (st : promotions.step s call = some s')
    (previous : s'.registry.previousChampion = s.registry.previousChampion)
    (champion : s'.registry.champion = s.registry.champion) (tracked : Tracked s') :
    AliasesRight s' := by
  cases st
  refine ⟨tracked.champion, ?_, ?_⟩
  · dsimp only
    rw [previous, if_pos champion]
    exact right.previous
  · dsimp only
    rw [previous, champion]
    exact right.distinct

/-- A call leaves the aliases right exactly where it keeps the target. -/
lemma aliasesRight_step (tracked : Tracked s) (right : AliasesRight s)
    (st : promotions.step s call = some s') : AliasesRight s' ↔ KeepsTarget s call := by
  have tracked' := tracked.step st
  cases st
  obtain ⟨previous, champion⟩ := @Registry.promoteModel_aliases s.registry call
  unfold KeepsTarget
  cases seen : s.registry.predecessor call with
  | some old =>
    obtain ⟨-, was, other⟩ := Registry.predecessor_eq_some.mp seen
    rw [seen, Option.some_or] at previous
    dsimp only
    by_cases refused : call.behaviour .setPreviousChampion = .refused
    · rw [if_pos refused] at previous
      have stays : s.registry.setsChampion call = false := by
        unfold Registry.setsChampion
        simp [seen, refused]
      rw [if_neg (by rw [stays]; exact Bool.false_ne_true)] at champion
      exact iff_of_true (right.unmoved rfl previous champion tracked') (.inl refused)
    · rw [if_neg refused] at previous
      by_cases sets : s.registry.setsChampion call = true
      · rw [if_pos sets] at champion
        refine iff_of_true ⟨tracked'.champion, ?_, ?_⟩ (.inr sets)
        · dsimp only
          rw [previous, champion, was, if_neg fun same => other (Option.some_inj.mp same).symm]
          exact fun p same => same
        · dsimp only
          rw [previous, champion]
          intro p same is
          cases same
          exact other (Option.some_inj.mp is).symm
      · rw [if_neg sets] at champion
        refine iff_of_false (fun right' => ?_) (not_or.mpr ⟨refused, sets⟩)
        exact right'.distinct old previous (champion.trans was)
  | none =>
    rw [seen, Option.none_or, ite_self] at previous
    dsimp only
    by_cases sets : s.registry.setsChampion call = true
    · rw [if_pos sets] at champion
      -- without a read of the champion the kept version stays behind when another is set
      by_cases changes : s.registry.champion = some call.candidateVersion
      · exact iff_of_true (right.unmoved rfl previous (champion.trans changes.symm) tracked')
          fun _ _ other => absurd changes other
      · constructor
        · intro right' _ some _
          by_contra kept
          obtain ⟨p, kept⟩ := Option.ne_none_iff_exists'.mp kept
          have replaced := right'.previous p (previous.trans kept)
          dsimp only at replaced
          rw [champion, if_neg (fun same => changes same.symm)] at replaced
          exact right.distinct p kept replaced
        · intro target
          have none : s.registry.previousChampion = none := by
            cases first : s.registry.champion with
            | none => exact (tracked.first first).2
            | some c => exact target sets (by simp [first]) changes
          refine ⟨tracked'.champion, ?_, ?_⟩
          · dsimp only
            rw [previous, none]
            exact fun p kept => by cases kept
          · dsimp only
            rw [previous, none]
            exact fun p kept => by cases kept
    · rw [if_neg sets] at champion
      exact iff_of_true (right.unmoved rfl previous champion tracked') fun yes => absurd yes sets

end

/-- Over every run, the aliases are right after each call exactly when every call keeps the
target. -/
theorem previousChampion_iff {calls s} (r : promotions.Run {} calls s) :
    promotions.Always AliasesRight {} calls ↔
      promotions.EachStep (fun s call _ => KeepsTarget s call) {} calls := by
  refine r.always_iff (I := Tracked) (fun _ _ _ tracked st => tracked.step st)
    (fun _ _ _ tracked right st => aliasesRight_step tracked right st) ?_ ?_
  · exact ⟨rfl, fun _ => ⟨rfl, rfl⟩⟩
  · exact ⟨rfl, fun _ => nofun, fun _ => nofun⟩

/-- Two promotions whose calls are all answered. -/
theorem previousChampion_iff_answered :
    ∃ s, promotions.Run {} [⟨1, fun _ => .done⟩, ⟨2, fun _ => .done⟩] s ∧
      s.registry.previousChampion = some 1 ∧
      (promotions.Always AliasesRight {} [⟨1, fun _ => .done⟩, ⟨2, fun _ => .done⟩] ↔
        promotions.EachStep (fun s call _ => KeepsTarget s call) {}
          [⟨1, fun _ => .done⟩, ⟨2, fun _ => .done⟩]) :=
  have run := Machine.run_iff_exec.mpr rfl
  ⟨_, run, by decide, previousChampion_iff run⟩

/-- A promotion that is refused the alias of the candidate leaves the champion as its own
predecessor. -/
theorem not_previousChampion :
    ¬ ∀ calls s, promotions.Run {} calls s → promotions.Always AliasesRight {} calls := by
  intro claim
  have run : promotions.Run {} [⟨1, fun _ => .done⟩,
      ⟨2, fun call => if call = .setCandidate then .refused else .done⟩] _ :=
    Machine.run_iff_exec.mpr rfl
  have right := claim _ _ run _ [] _ (List.append_nil _).symm run
  exact right.distinct 1 (by decide) (by decide)

end SentinelOps.Ml
