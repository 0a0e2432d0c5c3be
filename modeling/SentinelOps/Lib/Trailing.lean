import Mathlib.Data.List.DropRight

/-!
# Columns that look back over a bounded number of rows

A causal column computes the value of a row from the rows before it and the row itself; `scan` is the
column of a whole table. Where the value depends on the last `k` rows only (`Trailing`), a buffer of
that length fed one row after the other gives the same values (`feed_eq_scan`).
-/

namespace SentinelOps

variable {α β γ : Type*} {k : Nat} {f : List α → α → β} {xs ys before : List α} {x : α}

/-- The column of a table, after the rows `before`. -/
def scan (f : List α → α → β) : List α → List α → List β
  | _, [] => []
  | before, x :: xs => f before x :: scan f (before ++ [x]) xs

/-- The value of a row depends on it and the `k - 1` rows before it. -/
def Trailing (k : Nat) (f : List α → α → β) : Prop :=
  ∀ before x, f (before.rtake (k - 1)) x = f before x

/-- The values that a function of a bounded buffer returns while the buffer is fed. -/
def feed (k : Nat) (g : List α → β) : List α → List α → List β
  | _, [] => []
  | buffer, x :: xs => g ((buffer ++ [x]).rtake k) :: feed k g ((buffer ++ [x]).rtake k) xs

/-- The column of a table with one more row. -/
lemma scan_append : scan f before (xs ++ ys) = scan f before xs ++ scan f (before ++ xs) ys := by
  induction xs generalizing before with
  | nil => simp [scan]
  | cons x xs ih => simp [scan, ih]

/-- A mapped column. -/
lemma scan_map {c : β → γ} : scan (fun b x => c (f b x)) before xs = (scan f before xs).map c := by
  induction xs generalizing before with
  | nil => rfl
  | cons x xs ih => simp [scan, ih]

/-- A column of a shorter table. -/
lemma scan_take {n : Nat} : scan f before (xs.take n) = (scan f before xs).take n := by
  induction xs generalizing before n with
  | nil => simp [scan]
  | cons x xs ih =>
    cases n with
    | zero => rfl
    | succ n => simp [scan, ih]

@[simp] lemma length_scan : (scan f before xs).length = xs.length := by
  induction xs generalizing before with
  | nil => rfl
  | cons x xs ih => simp [scan, ih]

/-- The last value of a column. -/
lemma getLast?_scan : (scan f before (xs ++ [x])).getLast? = some (f (before ++ xs) x) := by
  rw [scan_append]
  simp [scan]

/-- The end of a longer list. -/
lemma rtake_append_singleton (pos : 0 < k) :
    (xs ++ [x]).rtake k = xs.rtake (k - 1) ++ [x] := by
  obtain ⟨k, rfl⟩ := Nat.exists_eq_succ_of_ne_zero pos.ne'
  exact List.rtake_concat_succ xs k x

/-- The end of an end. -/
lemma rtake_rtake {m n : Nat} : (xs.rtake n).rtake m = xs.rtake (min m n) := by
  simp only [List.rtake, List.drop_drop, List.length_drop]
  congr 1
  omega

/-- The end of a mapped list. -/
lemma map_rtake {c : α → γ} : (xs.rtake k).map c = (xs.map c).rtake k := by
  simp [List.rtake, List.map_drop]

/-- The last element of an end. -/
lemma getLast?_rtake (pos : 0 < k) : (xs.rtake k).getLast? = xs.getLast? := by
  unfold List.rtake
  rw [List.getLast?_drop]
  split
  · have none : xs = [] := List.eq_nil_of_length_eq_zero (by omega)
    rw [none]
    rfl
  · rfl

/-- Only the last rows of a buffer matter to the next one. -/
lemma rtake_buffer (pos : 0 < k) :
    (xs.rtake k ++ [x]).rtake k = (xs ++ [x]).rtake k := by
  rw [rtake_append_singleton pos, rtake_append_singleton pos, rtake_rtake,
    Nat.min_eq_left (Nat.sub_le k 1)]

/-- A buffer of `k` rows gives the values of a column that looks back over `k` rows. -/
theorem feed_eq_scan {g : List α → β} (pos : 0 < k) (trailing : Trailing k f)
    (agrees : ∀ init x, init ++ [x] <:+: before ++ xs → g (init ++ [x]) = f init x) :
    feed k g (before.rtake k) xs = scan f before xs := by
  induction xs generalizing before with
  | nil => rfl
  | cons x xs ih =>
    have shorter : before.rtake (k - 1) ++ [x] <:+: before ++ x :: xs := by
      refine ⟨before.take (before.length - (k - 1)), xs, ?_⟩
      rw [← List.append_assoc, List.rtake, List.take_append_drop, List.append_assoc]
      rfl
    have goes : before ++ [x] ++ xs = before ++ x :: xs := by simp
    unfold feed scan
    rw [rtake_buffer pos, ih (by rwa [goes]), rtake_append_singleton pos, agrees _ _ shorter,
      trailing]

end SentinelOps
