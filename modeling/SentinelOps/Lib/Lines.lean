import Mathlib.Data.List.Basic
import SentinelOps.Lib.PyText

/-!
# The lines of a text

`Py.lines` splits a text at the newlines. A text put between others that have no newline changes its
first and its last line only (`mem_lines_between`), and joining with newlines concatenates the lines
(`lines_join`).
-/

namespace SentinelOps.Py

/-- The lines of a text. -/
def lines (s : String) : List (List Char) := s.toList.splitOn '\n'

/-- A text without a newline. -/
def OneLine (s : String) : Prop := '\n' ∉ s.toList

instance {s} : Decidable (OneLine s) := inferInstanceAs (Decidable (_ ∉ _))

variable {s t : String}

/-- Such a text is its only line. -/
lemma OneLine.lines (h : OneLine s) : lines s = [s.toList] := List.splitOn_eq_singleton h

/-- Texts without a newline can be joined. -/
lemma OneLine.append (h : OneLine s) (h' : OneLine t) : OneLine (s ++ t) := by
  unfold OneLine at *
  rw [String.toList_append, List.mem_append]
  exact not_or.mpr ⟨h, h'⟩

/-- The lines of two texts with a newline between them. -/
lemma lines_append_newline : lines (s ++ "\n" ++ t) = lines s ++ lines t := by
  have shape : (s ++ "\n" ++ t).toList = s.toList ++ '\n' :: t.toList := by simp
  unfold lines
  rw [shape, List.splitOn_append_cons_self]

/-- A text in front extends the first line. -/
lemma lines_append_left (h : OneLine s) :
    ∃ first rest, lines t = first :: rest ∧ lines (s ++ t) = (s.toList ++ first) :: rest := by
  obtain ⟨first, rest, e⟩ := List.exists_cons_of_ne_nil (List.splitOn_ne_nil '\n' t.toList)
  refine ⟨first, rest, e, ?_⟩
  unfold lines OneLine at *
  rw [String.toList_append]
  generalize s.toList = cs at h ⊢
  induction cs with
  | nil => exact e
  | cons c cs ih =>
    rw [List.mem_cons, not_or] at h
    have other : ¬ (c == '\n') = true := fun same => h.1 (beq_iff_eq.mp same).symm
    rw [List.cons_append, List.splitOn_cons_eq_if_modifyHead, if_neg other, ih h.2]
    rfl

/-- A text at the end extends the last line. -/
lemma lines_append_right (h : OneLine t) :
    ∃ front last, lines s = front ++ [last] ∧ lines (s ++ t) = front ++ [last ++ t.toList] := by
  unfold lines
  rw [String.toList_append]
  generalize s.toList = cs
  induction cs with
  | nil => exact ⟨[], [], rfl, List.splitOn_eq_singleton h⟩
  | cons c cs ih =>
    obtain ⟨front, last, e, e'⟩ := ih
    rw [List.cons_append, List.splitOn_cons_eq_if_modifyHead, List.splitOn_cons_eq_if_modifyHead,
      e, e']
    split
    · exact ⟨[] :: front, last, rfl, rfl⟩
    · cases front with
      | nil => exact ⟨[], c :: last, rfl, rfl⟩
      | cons first front => exact ⟨(c :: first) :: front, last, rfl, rfl⟩

/-- A line that starts unlike a text is not among the lines that the text is put in front of, except
behind the first one. -/
lemma mem_lines_after {p : String} {d : List Char} (single : OneLine p)
    (start : p.toList.head? ≠ d.head?) (visible : p ≠ "") :
    d ∈ lines (p ++ s) ↔ d ∈ (lines s).tail := by
  obtain ⟨first, rest, e, e'⟩ := lines_append_left (t := s) single
  rw [e, e', List.tail_cons, List.mem_cons]
  refine ⟨fun h => h.resolve_left ?_, .inr⟩
  rintro rfl
  apply start
  rw [List.head?_append_of_ne_nil _ fun nil => visible (String.toList_eq_nil_iff.mp nil)]

/-- A line that starts unlike the text in front and ends unlike the text behind is among the lines
of what is put together only if it is strictly inside the text between them. -/
lemma mem_lines_between {p q : String} {d : List Char} (single : OneLine p) (single' : OneLine q)
    (start : p.toList.head? ≠ d.head?) (visible : p ≠ "")
    (stop : q.toList.getLast? ≠ d.getLast?) (visible' : q ≠ "") :
    d ∈ lines (p ++ s ++ q) ↔ d ∈ (lines s).tail.dropLast := by
  obtain ⟨first, rest, e, e'⟩ := lines_append_left (t := s) single
  obtain ⟨front, last, split, split'⟩ := lines_append_right (s := p ++ s) single'
  have before : d ≠ last ++ q.toList := by
    rintro rfl
    apply stop
    rw [List.getLast?_append_of_ne_nil _ fun nil => visible' (String.toList_eq_nil_iff.mp nil)]
  rw [split', e, List.tail_cons, List.mem_append, List.mem_singleton, or_iff_left before]
  rw [e'] at split
  cases front with
  | nil =>
    obtain ⟨-, rfl⟩ := List.cons_eq_cons.mp split
    rfl
  | cons x front =>
    have tails : rest = front ++ [last] := (List.cons_eq_cons.mp split).2
    obtain rfl := (List.cons_eq_cons.mp split).1
    rw [tails, List.dropLast_concat, List.mem_cons]
    refine ⟨fun h => h.resolve_left ?_, .inr⟩
    rintro rfl
    apply start
    rw [List.head?_append_of_ne_nil _ fun nil => visible (String.toList_eq_nil_iff.mp nil)]

/-- Joining with newlines concatenates the lines. -/
lemma lines_join {parts : List String} (some_ : parts ≠ []) :
    lines (join "\n" parts) = parts.flatMap lines := by
  induction parts with
  | nil => exact absurd rfl some_
  | cons x xs ih =>
    cases xs with
    | nil => exact (List.append_nil _).symm
    | cons y ys =>
      rw [List.flatMap_cons, ← ih (by simp), ← lines_append_newline]
      rfl

/-- The digits of a number have no newline. -/
lemma oneLine_natStr {n : Nat} : OneLine (toString n) := by
  intro mem
  rw [Nat.toString_eq_repr, Nat.repr_eq_ofList_toDigits, String.toList_ofList] at mem
  exact absurd (Nat.isDigit_of_mem_toDigits (by decide) (by decide) mem) (by decide)

/-- A padded number has no newline. -/
lemma oneLine_padZeros {width n : Nat} : OneLine (padZeros width n) := by
  intro mem
  unfold padZeros at mem
  dsimp only at mem
  rw [String.toList_ofList, List.mem_append] at mem
  obtain zero | digit := mem
  · exact absurd (List.eq_of_mem_replicate zero) (by decide)
  · exact oneLine_natStr digit

/-- Nor have the digits of an integer. -/
lemma oneLine_intStr {n : Int} : OneLine (toString n) := by
  cases n with
  | ofNat n => exact oneLine_natStr
  | negSucc n => exact .append (show OneLine "-" by decide) oneLine_natStr

/-- Texts without a newline are joined to one. -/
lemma oneLine_join {sep : String} {parts : List String} (single : OneLine sep)
    (all : ∀ p ∈ parts, OneLine p) : OneLine (join sep parts) := by
  induction parts with
  | nil => exact show OneLine "" by decide
  | cons x xs ih =>
    cases xs with
    | nil => exact all x (List.mem_singleton_self x)
    | cons y ys =>
      have rest := ih fun p mem => all p (List.mem_cons_of_mem _ mem)
      exact ((all x List.mem_cons_self).append single).append rest

/-- A number in fixed-point form has no newline. -/
lemma oneLine_fixed {d : Nat} {q : ℚ} : OneLine (fixed d q) := by
  unfold fixed
  dsimp only
  refine .append (.append ?_ oneLine_natStr) ?_
  · split
    · exact show OneLine "-" by decide
    · exact show OneLine "" by decide
  · split
    · exact show OneLine "" by decide
    · exact .append (by decide) oneLine_padZeros

/-- A printed timestamp has no newline and ends with its offset. -/
lemma isoformat_shape (t : Instant) : ∃ clock, OneLine clock ∧ isoformat t = clock ++ "+00:00" := by
  have micro {us : Nat} : OneLine (if us = 0 then "" else "." ++ padZeros 6 us) := by
    split
    · decide
    · exact .append (by decide) oneLine_padZeros
  have dash : OneLine "-" := by decide
  have tee : OneLine "T" := by decide
  have colon : OneLine ":" := by decide
  have n {width n : Nat} : OneLine (padZeros width n) := oneLine_padZeros
  unfold isoformat
  generalize civil _ = date
  obtain ⟨year, month, day⟩ := date
  refine ⟨_, ?_, rfl⟩
  exact (((((((((((n.append dash).append n).append dash).append n).append tee).append n).append
    colon).append n).append colon).append n).append micro)

end SentinelOps.Py
