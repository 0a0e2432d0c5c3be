import SentinelOps.Lib.Fallible
import SentinelOps.Lib.Paired
import SentinelOps.Lib.Rounding
import Mathlib.Data.List.Sort

/-!
# Splits without leakage

`chronologicalSplit` trains on the earliest rows and tests on the latest; `heldOutFaultSplit` trains
on some kinds of faults and tests on others. A table is sorted by the positions that NumPy's sort
returns for a column of times (`Argsort`), in whichever order it puts equal times. The assertions of
the source hold of every table (`chronologicalSplit_eq_ok`, `heldOutFaultSplit_eq_ok`).
-/

namespace SentinelOps.Ml

variable {α τ : Type} [LinearOrder τ]

/-- The positions that sort a column of times. -/
structure Argsort (τ : Type) [LinearOrder τ] where
  order : List τ → List ℕ
  perm : ∀ ts, (order ts).Perm (List.range ts.length)
  sorted : ∀ ts, (select (order ts) ts).Pairwise (· ≤ ·)

/-- The positions of the smallest value first; equal values keep their order. -/
def stableOrder (ts : List τ) : List ℕ :=
  (ts.zipIdx.insertionSort fun a b => a.1 ≤ b.1).map Prod.snd

/-- Those are all positions. -/
lemma stableOrder_perm (ts : List τ) : (stableOrder ts).Perm (List.range ts.length) := by
  have perm := (List.perm_insertionSort (fun a b : τ × ℕ => a.1 ≤ b.1) ts.zipIdx).map Prod.snd
  rwa [List.zipIdx_map_snd, ← List.range_eq_range'] at perm

/-- The values at those positions do not decrease. -/
lemma stableOrder_sorted (ts : List τ) : (select (stableOrder ts) ts).Pairwise (· ≤ ·) := by
  have total : Std.Total fun a b : τ × ℕ => a.1 ≤ b.1 := ⟨fun a b => le_total a.1 b.1⟩
  have transitive : IsTrans (τ × ℕ) fun a b => a.1 ≤ b.1 := ⟨fun _ _ _ => le_trans⟩
  have values : select (stableOrder ts) ts =
      (ts.zipIdx.insertionSort fun a b => a.1 ≤ b.1).map Prod.fst := by
    rw [select, stableOrder, List.filterMap_map, ← List.filterMap_eq_map]
    refine List.filterMap_congr fun v mem => ?_
    exact List.mem_zipIdx_iff_getElem?.mp ((List.mem_insertionSort _).mp mem)
  rw [values, List.pairwise_map]
  exact List.pairwise_insertionSort (fun a b : τ × ℕ => a.1 ≤ b.1) _

/-- A stable sort. -/
def Argsort.stable : Argsort τ := ⟨stableOrder, stableOrder_perm, stableOrder_sorted⟩

/-- `Split`. -/
structure Split (α : Type) where
  train : List α
  val : List α
  test : List α

/-- `df.sort_values(key)`. -/
def sortValues (argsort : Argsort τ) (key : α → τ) (df : List α) : List α :=
  select (argsort.order (df.map key)) df

/-- `max(1, round(n * fraction))`. -/
def share (n : ℕ) (fraction : ℚ) : ℕ :=
  max 1 (Py.roundHalfEven (PyFloat.rounded (n * fraction))).toNat

/-- `_time_key(a).max() <= _time_key(b).min()`. -/
def NoOverlap (key : α → τ) (a b : List α) : Prop := ∀ x ∈ a, ∀ y ∈ b, key x ≤ key y

instance instDecidableNoOverlap {key : α → τ} {a b : List α} : Decidable (NoOverlap key a b) :=
  inferInstanceAs (Decidable (∀ x ∈ a, ∀ y ∈ b, key x ≤ key y))

/-- `chronological_split`. -/
def chronologicalSplit (argsort : Argsort τ) (key : α → τ) (df : List α)
    (valFraction testFraction : ℚ) : Except String (Split α) := do
  ensure ((0 < valFraction ∧ valFraction < 1) ∧ 0 < testFraction ∧ testFraction < 1)
    "fractions must be in (0, 1)"
  ensure (PyFloat.rounded (valFraction + testFraction) < 1) "val + test fractions must be < 1"
  let ordered := sortValues argsort key df
  let n := ordered.length
  let nTest := share n testFraction
  let nVal := share n valFraction
  ensure (nVal + nTest < n) ("not enough rows (" ++ toString n ++ ") for the requested split")
  let nTrain := n - nVal - nTest
  let train := ordered.take nTrain
  let val := (ordered.drop nTrain).take nVal
  let test := ordered.drop (nTrain + nVal)
  ensure (NoOverlap key train val) "AssertionError"
  ensure (NoOverlap key val test) "AssertionError"
  return ⟨train, val, test⟩

/-- `NORMAL_LABELS`. -/
def normalLabels : List String := ["normal", "recovery"]

/-- `held_out_fault_split`, of tables whose rows carry a label. -/
def heldOutFaultSplit (argsort : Argsort τ) (key : α → τ) (label : α → String)
    (trainSource testSource : List α) (trainFaults holdoutFaults : List String)
    (valFraction : ℚ) : Except String (Split α) := do
  ensure (∀ fault ∈ trainFaults, fault ∉ holdoutFaults) "train_faults and holdout_faults overlap"
  let tr := trainSource.filter fun row => label row ∈ normalLabels ++ trainFaults
  let te := testSource.filter fun row => label row ∈ normalLabels ++ holdoutFaults
  let tr := sortValues argsort key tr
  let cut := ⌊PyFloat.rounded (tr.length * PyFloat.rounded (1 - valFraction))⌋.toNat
  let train := tr.take cut
  let val := tr.drop cut
  ensure (∀ row ∈ train ++ val, label row ∉ holdoutFaults) "held-out faults leaked into training"
  return ⟨train, val, te⟩

variable {argsort : Argsort τ} {key : α → τ} {df : List α}

/-- A sorted table holds the same rows. -/
lemma sortValues_perm : (sortValues argsort key df).Perm df := by
  refine select_perm ?_
  have all := argsort.perm (df.map key)
  rwa [List.length_map] at all

/-- It is in the order of time. -/
lemma sortValues_sorted : (sortValues argsort key df).Pairwise fun x y => key x ≤ key y := by
  have sorted := argsort.sorted (df.map key)
  rw [← map_select, List.pairwise_map] at sorted
  exact sorted

/-- Where a sorted table is cut. -/
def cutAt (ordered : List α) (nTrain nVal : ℕ) : Split α :=
  ⟨ordered.take nTrain, (ordered.drop nTrain).take nVal, ordered.drop (nTrain + nVal)⟩

/-- A function of the rows of a split. -/
def Split.map {β : Type} (g : α → β) (s : Split α) : Split β :=
  ⟨s.train.map g, s.val.map g, s.test.map g⟩

omit [LinearOrder τ] in
/-- Cutting a table of such values. -/
lemma cutAt_map {β : Type} {g : α → β} {xs : List α} {k m : ℕ} :
    cutAt (xs.map g) k m = (cutAt xs k m).map g := by
  simp [cutAt, Split.map]

/-- What the source checks before it cuts a table of `n` rows. -/
def Divisible (n : ℕ) (valFraction testFraction : ℚ) : Prop :=
  ((0 < valFraction ∧ valFraction < 1) ∧ 0 < testFraction ∧ testFraction < 1) ∧
    PyFloat.rounded (valFraction + testFraction) < 1 ∧
    share n valFraction + share n testFraction < n

/-- Later rows of a sorted table are not earlier. -/
lemma noOverlap_of_sorted {xs ys : List α} (sorted : (xs ++ ys).Pairwise fun x y => key x ≤ key y) :
    NoOverlap key xs ys :=
  (List.pairwise_append.mp sorted).2.2

/-- The parts of a sorted table do not overlap in time. -/
lemma cutAt_noOverlap (k m : ℕ) :
    NoOverlap key (cutAt (sortValues argsort key df) k m).train
        (cutAt (sortValues argsort key df) k m).val ∧
      NoOverlap key (cutAt (sortValues argsort key df) k m).val
        (cutAt (sortValues argsort key df) k m).test := by
  constructor
  · refine noOverlap_of_sorted ?_
    show ((sortValues argsort key df).take k ++ _).Pairwise _
    rw [cutAt, ← List.take_add]
    exact sortValues_sorted.sublist (List.take_sublist _ _)
  · refine noOverlap_of_sorted ?_
    show (((sortValues argsort key df).drop k).take m ++ _).Pairwise _
    rw [cutAt, ← List.drop_drop, List.take_append_drop]
    exact sortValues_sorted.sublist (List.drop_sublist _ _)

/-- When a table is split, and where: the assertions hold of every table. -/
lemma chronologicalSplit_eq_ok {v t : ℚ} {s : Split α} :
    chronologicalSplit argsort key df v t = .ok s ↔ Divisible df.length v t ∧
      s = cutAt (sortValues argsort key df) (df.length - share df.length v - share df.length t)
        (share df.length v) := by
  have length : (sortValues argsort key df).length = df.length := sortValues_perm.length_eq
  simp only [chronologicalSplit, Except.bind_eq_ok, ensure_eq_ok, length]
  constructor
  · rintro ⟨_, fractions, _, sum, _, enough, _, _, _, _, same⟩
    exact ⟨⟨fractions, sum, enough⟩, (Except.ok.inj same).symm⟩
  · rintro ⟨⟨fractions, sum, enough⟩, rfl⟩
    exact ⟨(), fractions, (), sum, (), enough, (), (cutAt_noOverlap _ _).1, (), (cutAt_noOverlap _ _).2,
      rfl⟩

/-- When a generalisation experiment is built, and from what: the assertion fails only where the label
of a normal row is named as a fault to hold out. -/
lemma heldOutFaultSplit_eq_ok {label : α → String} {trainSource testSource : List α}
    {trainFaults holdoutFaults : List String} {v : ℚ} {s : Split α} :
    heldOutFaultSplit argsort key label trainSource testSource trainFaults holdoutFaults v = .ok s ↔
      ((∀ fault ∈ trainFaults, fault ∉ holdoutFaults) ∧
        ∀ row ∈ trainSource, label row ∈ normalLabels → label row ∉ holdoutFaults) ∧
      let kept := sortValues argsort key
        (trainSource.filter fun row => label row ∈ normalLabels ++ trainFaults)
      let cut := ⌊PyFloat.rounded (kept.length * PyFloat.rounded (1 - v))⌋.toNat
      s = ⟨kept.take cut, kept.drop cut,
        testSource.filter fun row => label row ∈ normalLabels ++ holdoutFaults⟩ := by
  have kept_iff {row} : row ∈ sortValues argsort key
      (trainSource.filter fun row => label row ∈ normalLabels ++ trainFaults) ↔
        row ∈ trainSource ∧ label row ∈ normalLabels ++ trainFaults := by
    rw [sortValues_perm.mem_iff, List.mem_filter, decide_eq_true_eq]
  simp only [heldOutFaultSplit, Except.bind_eq_ok, ensure_eq_ok, List.take_append_drop, kept_iff]
  constructor
  · rintro ⟨_, disjoint, _, clean, same⟩
    refine ⟨⟨disjoint, ?_⟩, (Except.ok.inj same).symm⟩
    exact fun row mem normal => clean row ⟨mem, List.mem_append_left _ normal⟩
  · rintro ⟨⟨disjoint, clean⟩, rfl⟩
    refine ⟨(), disjoint, (), ?_, rfl⟩
    rintro row ⟨mem, kept⟩
    obtain normal | fault := List.mem_append.mp kept
    · exact clean row mem normal
    · exact disjoint _ fault

end SentinelOps.Ml
