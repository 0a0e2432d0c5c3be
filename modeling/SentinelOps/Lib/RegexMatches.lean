import SentinelOps.Lib.Regex
import Mathlib.Algebra.GroupWithZero.Nat
import Mathlib.Data.List.TakeDrop
import Mathlib.Tactic.Common

/-!
# What a pattern matches

`Regex.Matches` says which texts a sequence of atoms matches between two neighbouring characters,
without regard to the order of the search. `Regex.matchSeq` finds a match exactly where there is one
(`matchSeq_sound`, `matchSeq_complete`), so `Regex.search` decides `Regex.Contains`.
`Regex.Separated` collects what keeps a replacement apart from the matches of a pattern: then no
match is left after `Regex.sub` (`Separated.not_contains`), and cutting a text without matches makes
one exactly where the cut splits a word whose first part matches (`contains_cut_iff`).
-/

namespace SentinelOps

namespace Atom

/-- No repetition of the atom takes the character. -/
def rejects (c : Char) : Atom → Bool
  | .rep p _ _ => !p c
  | .boundary => true

/-- The atom takes a character, and none of the text. -/
def lacks (cs : List Char) : Atom → Bool
  | .rep p lo _ => decide (0 < lo) && cs.all fun c => !p c
  | .boundary => false

end Atom

namespace Regex

/-- A sequence matches a token between two neighbours. -/
inductive Matches (isWord : Char → Bool) :
    List Atom → Option Char → List Char → Option Char → Prop where
  | nil {prev next} :
    Matches isWord [] prev [] next
  | boundary {as prev token next} :
    atBoundary isWord prev (token.head?.or next) = true →
    Matches isWord as prev token next →
    Matches isWord (.boundary :: as) prev token next
  | rep {p lo hi as prev run token next} :
    (∀ c ∈ run, p c = true) →
    lo ≤ run.length →
    (∀ n, hi = some n → run.length ≤ n) →
    Matches isWord as (run.getLast?.or prev) token next →
    Matches isWord (.rep p lo hi :: as) prev (run ++ token) next

/-- A pattern matches at the beginning of a text, after the character `prev`. -/
def At (isWord : Char → Bool) (r : Regex) (prev : Option Char) (cs : List Char) : Prop :=
  ∃ as ∈ r, ∃ token rest, cs = token ++ rest ∧ Matches isWord as prev token rest.head?

/-- A pattern matches somewhere in a text, after the character `prev`. -/
def Contains (isWord : Char → Bool) (r : Regex) (prev : Option Char) (cs : List Char) : Prop :=
  ∃ before after, cs = before ++ after ∧ At isWord r (before.getLast?.or prev) after

variable {isWord : Char → Bool} {as bs : List Atom} {r : Regex} {prev next : Option Char}
  {cs token rest : List Char}

/-- The counts that a repetition tries. -/
lemma mem_counts {lo n k} : k ∈ counts lo n ↔ lo ≤ k ∧ k ≤ n := by
  simp only [counts, List.mem_reverse, List.mem_filter, List.mem_range, decide_eq_true_eq]
  omega

/-- The largest count is tried first. -/
lemma findSome?_counts {β : Type} {f : Nat → Option β} {lo n b} (le : lo ≤ n)
    (h : f n = some b) : (counts lo n).findSome? f = some b := by
  unfold counts
  rw [List.range_succ, List.filter_append, List.reverse_append]
  simp [le, h]

/-- The bound of the available characters. -/
lemma le_available {p hi k} : k ≤ available p hi cs ↔
    k ≤ (cs.takeWhile p).length ∧ ∀ n, hi = some n → k ≤ n := by
  cases hi with
  | none => simp [available]
  | some n => simp [available, Nat.le_min, and_comm]

/-- The leading characters of a class. -/
lemma le_length_takeWhile {p : Char → Bool} {k} (le : k ≤ cs.length) :
    k ≤ (cs.takeWhile p).length ↔ ∀ c ∈ cs.take k, p c = true := by
  induction cs generalizing k with
  | nil =>
    cases Nat.le_zero.mp le
    simp
  | cons c cs ih =>
    cases k with
    | zero => simp
    | succ k =>
      by_cases own : p c = true
      · have := ih (Nat.le_of_succ_le_succ le)
        simp [own, this]
      · simp [own]

/-- A match that is found is a match. -/
lemma matchSeq_sound {n} (h : matchSeq isWord as prev cs = some n) :
    ∃ token rest, cs = token ++ rest ∧ token.length = n ∧
      Matches isWord as prev token rest.head? := by
  induction as generalizing prev cs n with
  | nil =>
    cases h
    exact ⟨[], cs, rfl, rfl, .nil⟩
  | cons a as ih =>
    cases a with
    | boundary =>
      unfold matchSeq at h
      split at h
      · rename_i edge
        obtain ⟨token, rest, rfl, len, found⟩ := ih h
        refine ⟨token, rest, rfl, len, .boundary ?_ found⟩
        rw [← List.head?_append]
        exact edge
      · cases h
    | rep p lo hi =>
      unfold matchSeq at h
      obtain ⟨k, tried, h⟩ := List.exists_of_findSome?_eq_some h
      obtain ⟨m, later, rfl⟩ := Option.map_eq_some_iff.mp h
      obtain ⟨token, rest, split, rfl, found⟩ := ih later
      obtain ⟨lower, le⟩ := mem_counts.mp tried
      obtain ⟨within, upper⟩ := le_available.mp le
      have fits : k ≤ cs.length := Nat.le_trans within (List.takeWhile_prefix p).length_le
      have len : (cs.take k).length = k := List.length_take_of_le fits
      refine ⟨cs.take k ++ token, rest, ?_, ?_, .rep ?_ ?_ ?_ found⟩
      · rw [List.append_assoc, ← split, List.take_append_drop]
      · rw [List.length_append, len]
      · exact (le_length_takeWhile fits).mp within
      · rw [len]
        exact lower
      · rw [len]
        exact upper

/-- Where there is a match, one is found. -/
lemma matchSeq_complete (h : Matches isWord as prev token rest.head?) :
    (matchSeq isWord as prev (token ++ rest)).isSome = true := by
  generalize e : rest.head? = next at h
  induction h with
  | nil => rfl
  | boundary edge _ ih =>
    unfold matchSeq
    rw [if_pos (by rw [List.head?_append, e, edge])]
    exact ih e
  | @rep p lo hi as prev run token next inClass lower upper _ ih =>
    unfold matchSeq
    rw [List.findSome?_isSome_iff]
    have fits : run.length ≤ (run ++ token ++ rest).length := by simp
    have own : (run ++ token ++ rest).take run.length = run := by simp
    refine ⟨run.length, mem_counts.mpr ⟨lower, le_available.mpr ⟨?_, upper⟩⟩, ?_⟩
    · rw [le_length_takeWhile fits, own]
      exact inClass
    · rw [Option.isSome_map, own]
      simpa using ih e

/-- The match that is found at a place. -/
lemma matchAt_sound {n} (h : matchAt isWord r prev cs = some n) :
    ∃ as ∈ r, matchSeq isWord as prev cs = some n :=
  List.exists_of_findSome?_eq_some h

/-- The length that is found is that of a match. -/
lemma matchSeq_length (h : matchSeq isWord as prev (token ++ rest) = some token.length) :
    Matches isWord as prev token rest.head? := by
  obtain ⟨token', rest', split, length, found⟩ := matchSeq_sound h
  obtain ⟨rfl, rfl⟩ := List.append_inj split length.symm
  exact found

/-- A match is found at a place exactly when there is one. -/
lemma matchAt_isSome : (matchAt isWord r prev cs).isSome = true ↔ At isWord r prev cs := by
  unfold matchAt At
  rw [List.findSome?_isSome_iff]
  apply exists_congr
  intro as
  apply and_congr_right
  intro _
  constructor
  · intro h
    obtain ⟨n, h⟩ := Option.isSome_iff_exists.mp h
    obtain ⟨token, rest, split, _, found⟩ := matchSeq_sound h
    exact ⟨token, rest, split, found⟩
  · rintro ⟨token, rest, rfl, found⟩
    exact matchSeq_complete found

/-- The matches of a text begin at its first character or later. -/
lemma contains_cons {c} : Contains isWord r prev (c :: cs) ↔
    At isWord r prev (c :: cs) ∨ Contains isWord r (some c) cs := by
  constructor
  · rintro ⟨before, after, split, found⟩
    cases before with
    | nil => exact .inl (split ▸ found)
    | cons b before =>
      obtain ⟨rfl, rfl⟩ := List.cons.inj split
      refine .inr ⟨before, after, rfl, ?_⟩
      simpa [List.getLast?_cons] using found
  · rintro (found | ⟨before, after, rfl, found⟩)
    · exact ⟨[], c :: cs, rfl, found⟩
    · refine ⟨c :: before, after, rfl, ?_⟩
      simpa [List.getLast?_cons] using found

/-- The search decides whether there is a match. -/
lemma searchFrom_iff : searchFrom isWord r prev cs = true ↔ Contains isWord r prev cs := by
  induction cs generalizing prev with
  | nil =>
    unfold searchFrom
    rw [matchAt_isSome]
    constructor
    · intro found
      exact ⟨[], [], rfl, found⟩
    · rintro ⟨before, after, split, found⟩
      obtain ⟨rfl, rfl⟩ := List.append_eq_nil_iff.mp split.symm
      exact found
  | cons c cs ih =>
    unfold searchFrom
    rw [Bool.or_eq_true, matchAt_isSome, ih, contains_cons]

/-- The search decides whether a string contains a match. -/
lemma search_iff {s : String} : search isWord r s = true ↔ Contains isWord r none s.toList :=
  searchFrom_iff

/-- What follows a match matters only to a boundary at its end. -/
lemma Matches.followed {next'} (h : Matches isWord as prev token next)
    (edge : atBoundary isWord (token.getLast?.or prev) next = true →
      atBoundary isWord (token.getLast?.or prev) next' = true) :
    Matches isWord as prev token next' := by
  induction h with
  | nil => exact .nil
  | @boundary as prev token next here _ ih =>
    refine .boundary ?_ (ih edge)
    cases token with
    | nil => exact edge here
    | cons c token => exact here
  | @rep p lo hi as prev run token next inClass lower upper _ ih =>
    refine .rep inClass lower upper (ih ?_)
    rw [List.getLast?_append, Option.or_assoc] at edge
    exact edge

/-- What precedes a match matters only to a boundary at its beginning. -/
lemma Matches.preceded {prev'} (h : Matches isWord as prev token next)
    (edge : atBoundary isWord prev (token.head?.or next) = true →
      atBoundary isWord prev' (token.head?.or next) = true) :
    Matches isWord as prev' token next := by
  induction h generalizing prev' with
  | nil => exact .nil
  | boundary here _ ih => exact .boundary (edge here) (ih edge)
  | @rep p lo hi as prev run token next inClass lower upper rest ih =>
    refine .rep inClass lower upper ?_
    cases run with
    | nil => exact ih edge
    | cons c run =>
      rw [List.getLast?_cons, Option.some_or] at rest ⊢
      exact rest

/-- Every character of a match is in the class of a repetition. -/
lemma Matches.mem {c} (h : Matches isWord as prev token next) (member : c ∈ token) :
    ∃ p lo hi, Atom.rep p lo hi ∈ as ∧ p c = true := by
  induction h with
  | nil => cases member
  | boundary _ _ ih =>
    obtain ⟨p, lo, hi, there, own⟩ := ih member
    exact ⟨p, lo, hi, List.mem_cons_of_mem _ there, own⟩
  | @rep p lo hi as prev run token next inClass _ _ _ ih =>
    obtain first | later := List.mem_append.mp member
    · exact ⟨p, lo, hi, List.mem_cons_self, inClass c first⟩
    · obtain ⟨p, lo, hi, there, own⟩ := ih later
      exact ⟨p, lo, hi, List.mem_cons_of_mem _ there, own⟩

/-- A repetition that must occur, occurs. -/
lemma Matches.occurs {p lo hi} (h : Matches isWord as prev token next)
    (member : Atom.rep p lo hi ∈ as) (pos : 0 < lo) : ∃ c ∈ token, p c = true := by
  induction h with
  | nil => cases member
  | boundary _ _ ih =>
    obtain first | later := List.mem_cons.mp member
    · cases first
    · exact ih later
  | @rep p' lo' hi' as prev run token next inClass lower _ _ ih =>
    obtain first | later := List.mem_cons.mp member
    · cases first
      cases run with
      | nil => exact absurd lower (Nat.not_le_of_lt pos)
      | cons c run => exact ⟨c, by simp, inClass c (by simp)⟩
    · obtain ⟨c, there, own⟩ := ih later
      exact ⟨c, List.mem_append_right _ there, own⟩

/-- A match has no character that all its atoms reject. -/
lemma Matches.not_mem {c} (h : Matches isWord as prev token next)
    (rejected : ∀ a ∈ as, a.rejects c = true) : c ∉ token := by
  intro member
  obtain ⟨p, lo, hi, there, own⟩ := h.mem member
  have := rejected _ there
  simp [Atom.rejects, own] at this

/-- A match has a character outside a text that one of its atoms lacks. -/
lemma Matches.exists_of_lacks {a} (h : Matches isWord as prev token next) (member : a ∈ as)
    (lacks : a.lacks cs = true) : ∃ c ∈ token, c ∉ cs := by
  cases a with
  | boundary => cases lacks
  | rep p lo hi =>
    simp only [Atom.lacks, Bool.and_eq_true, decide_eq_true_eq, List.all_eq_true] at lacks
    obtain ⟨c, there, own⟩ := h.occurs member lacks.1
    refine ⟨c, there, fun inside => ?_⟩
    have := lacks.2 c inside
    simp [own] at this

/-- A match of a sequence that begins with a single character begins with one of its class. -/
lemma Matches.head {p} (h : Matches isWord (.one p :: as) prev token next) :
    ∃ c, token.head? = some c ∧ p c = true := by
  cases h with
  | @rep _ _ _ _ _ run _ _ inClass lower _ _ =>
    cases run with
    | nil => cases lower
    | cons c run => exact ⟨c, rfl, inClass c List.mem_cons_self⟩

/-- A match of a sequence that begins with a boundary goes on no word. -/
lemma Matches.starts (h : Matches isWord (.boundary :: as) prev token next)
    (word : prev.any isWord = true) : token.head?.any isWord = false := by
  cases h with
  | boundary edge _ =>
    cases token with
    | nil => rfl
    | cons c token => simpa [atBoundary, word] using edge

/-- A match of a sequence that ends with a boundary ends at one. -/
lemma Matches.ends (h : Matches isWord (as ++ [.boundary]) prev token next) :
    atBoundary isWord (token.getLast?.or prev) next = true := by
  generalize e : as ++ [Atom.boundary] = bs at h
  induction h generalizing as with
  | nil => simp at e
  | @boundary bs prev token next here rest ih =>
    cases as with
    | nil =>
      obtain rfl : [] = bs := by simpa using e
      cases rest
      exact here
    | cons a as => exact ih (List.cons.inj e).2
  | @rep p lo hi bs prev run token next _ _ _ _ ih =>
    cases as with
    | nil => simp at e
    | cons a as =>
      rw [List.getLast?_append, Option.or_assoc]
      exact ih (List.cons.inj e).2

/-- A match of a sequence that ends with a single character ends with one of its class. -/
lemma Matches.last {p} (h : Matches isWord (as ++ [.one p]) prev token next) :
    ∃ c, token.getLast? = some c ∧ p c = true := by
  generalize e : as ++ [Atom.one p] = bs at h
  induction h generalizing as with
  | nil => simp at e
  | boundary _ _ ih =>
    cases as with
    | nil => simp [Atom.one] at e
    | cons a as => exact ih (List.cons.inj e).2
  | @rep p' lo hi bs prev run token next inClass lower _ rest ih =>
    cases as with
    | nil =>
      obtain ⟨⟨rfl, rfl, rfl⟩, rfl⟩ : (p = p' ∧ 1 = lo ∧ some 1 = hi) ∧ [] = bs := by
        simpa [Atom.one] using e
      cases rest
      rw [List.append_nil]
      have some : run ≠ [] := by
        rintro rfl
        cases lower
      exact ⟨run.getLast some, List.getLast?_eq_some_getLast some,
        inClass _ (List.getLast_mem some)⟩
    | cons a as =>
      obtain ⟨c, there, own⟩ := ih (List.cons.inj e).2
      exact ⟨c, by rw [List.getLast?_append, there, Option.some_or], own⟩

/-- A match that is found ends with one of its last atoms. -/
lemma matchSeq_append {n} (h : matchSeq isWord (as ++ bs) prev cs = some n) :
    ∃ token rest prev' m, cs = token ++ rest ∧ n = token.length + m ∧
      matchSeq isWord bs prev' rest = some m := by
  induction as generalizing prev cs n with
  | nil => exact ⟨[], cs, prev, n, rfl, by simp, h⟩
  | cons a as ih =>
    cases a with
    | boundary =>
      rw [List.cons_append] at h
      unfold matchSeq at h
      split at h
      · exact ih h
      · cases h
    | rep p lo hi =>
      rw [List.cons_append] at h
      unfold matchSeq at h
      obtain ⟨k, tried, h⟩ := List.exists_of_findSome?_eq_some h
      obtain ⟨m, later, rfl⟩ := Option.map_eq_some_iff.mp h
      obtain ⟨token, rest, prev', m', split, rfl, found⟩ := ih later
      have within := (le_available.mp (mem_counts.mp tried).2).1
      have len : (cs.take k).length = k :=
        List.length_take_of_le (Nat.le_trans within (List.takeWhile_prefix p).length_le)
      refine ⟨cs.take k ++ token, rest, prev', m', ?_, ?_, found⟩
      · rw [List.append_assoc, ← split, List.take_append_drop]
      · rw [List.length_append, len, Nat.add_assoc]

/-- The first character that a leading run lacks is outside its class. -/
lemma head?_drop_takeWhile {p : Char → Bool} :
    (cs.drop (cs.takeWhile p).length).head?.any p = false := by
  induction cs with
  | nil => rfl
  | cons c cs ih =>
    by_cases own : p c = true
    · simpa [own] using ih
    · simp [own]

/-- A repetition at the end takes all it can. -/
lemma matchSeq_last {q hi} : matchSeq isWord [.rep q 0 hi] prev cs = some (available q hi cs) :=
  findSome?_counts (Nat.zero_le _) rfl

/-- Two repetitions at the end, the second one optional, take all they can. -/
lemma matchSeq_last_two {p q lo hi n}
    (h : matchSeq isWord [.rep p lo none, .rep q 0 hi] prev cs = some n) :
    n = (cs.takeWhile p).length +
      available q hi (cs.drop (cs.takeWhile p).length) := by
  unfold matchSeq at h
  obtain ⟨k, tried, _⟩ := List.exists_of_findSome?_eq_some h
  obtain ⟨lower, upper⟩ := mem_counts.mp tried
  rw [findSome?_counts (Nat.le_trans lower upper)
    (by rw [matchSeq_last, Option.map_some])] at h
  exact (Option.some.inj h).symm

/-- A found match that ends with two repetitions, the second one optional, ends with a character of
the second class, or no character of the first class follows it. -/
lemma matchSeq_greedy {p q lo hi}
    (h : matchSeq isWord (as ++ [.rep p lo none, .rep q 0 hi]) prev (token ++ rest) =
      some token.length) :
    token.getLast?.any q = true ∨ rest.head?.any p = false := by
  obtain ⟨before, after, prev', m, split, length, found⟩ := matchSeq_append h
  have taken := matchSeq_last_two found
  have own : token = before ++ after.take m := by
    have := congrArg (List.take token.length) split
    rwa [List.take_left, length, List.take_length_add_append] at this
  have remains : rest = after.drop m := by
    have := congrArg (List.drop token.length) split
    rwa [List.drop_left, length, List.drop_length_add_append] at this
  generalize k_eq : (after.takeWhile p).length = k at taken
  generalize j_eq : available q hi (after.drop k) = j at taken
  cases j with
  | zero =>
    right
    rw [remains, taken, Nat.add_zero, ← k_eq]
    exact head?_drop_takeWhile
  | succ j =>
    left
    have within := (le_available.mp (Nat.le_of_eq j_eq.symm)).1
    have fits := Nat.le_trans within (List.takeWhile_prefix q).length_le
    have inClass := (le_length_takeWhile fits).mp within
    have some : (after.drop k).take (j + 1) ≠ [] := by
      intro none
      have := congrArg List.length none
      rw [List.length_take_of_le fits] at this
      cases this
    rw [own, taken, List.take_add, ← List.append_assoc, List.getLast?_append_of_ne_nil _ some,
      List.getLast?_eq_some_getLast some]
    exact inClass _ (List.getLast_mem some)

/-- The text after the replacement of the leftmost matches. -/
inductive Replaced (isWord : Char → Bool) (r : Regex) (repl : List Char) :
    Option Char → List Char → List Char → Prop where
  | nil {prior} :
    Replaced isWord r repl prior [] []
  | keep {prior c later out} :
    (∀ n, matchAt isWord r prior (c :: later) ≠ some (n + 1)) →
    Replaced isWord r repl (some c) later out →
    Replaced isWord r repl prior (c :: later) (c :: out)
  | replace {prior matched later out} :
    matched ≠ [] →
    matchAt isWord r prior (matched ++ later) = some matched.length →
    Replaced isWord r repl matched.getLast? later out →
    Replaced isWord r repl prior (matched ++ later) (repl ++ out)

/-- The characters of a match are skipped. -/
lemma subFrom_skip {repl} (cs : List Char) : subFrom isWord r repl token.length prev (token ++ cs) =
    subFrom isWord r repl 0 (token.getLast?.or prev) cs := by
  induction token generalizing prev with
  | nil => rfl
  | cons c token ih =>
    rw [List.length_cons, List.cons_append, List.getLast?_cons, Option.some_or]
    show subFrom isWord r repl token.length (some c) (token ++ cs) = _
    rw [ih]
    cases token.getLast? <;> rfl

/-- `sub` replaces the leftmost matches. -/
lemma replaced_subFrom {repl} (cs : List Char) :
    Replaced isWord r repl prev cs (subFrom isWord r repl 0 prev cs) := by
  induction h : cs.length using Nat.strongRecOn generalizing prev cs with
  | ind len ih =>
    cases cs with
    | nil => exact .nil
    | cons c cs =>
      unfold subFrom
      split
      · rename_i n found
        obtain ⟨as, _, matched⟩ := matchAt_sound found
        obtain ⟨token, rest, split, length, _⟩ := matchSeq_sound matched
        cases token with
        | nil => cases length
        | cons b token =>
          obtain ⟨rfl, e⟩ := List.cons.inj split
          obtain rfl : cs = token ++ rest := e
          obtain rfl : token.length = n := Nat.succ.inj length
          rw [subFrom_skip]
          have last : token.getLast?.or (some c) = (c :: token).getLast? := by
            rw [List.getLast?_cons]
            cases token.getLast? <;> rfl
          rw [last]
          refine .replace (List.cons_ne_nil _ _) found (ih rest.length ?_ rest rfl)
          simp only [List.length_cons, List.length_append] at h
          omega
      · rename_i unmatched
        refine .keep (fun n found => unmatched n found) (ih cs.length ?_ cs rfl)
        simp only [List.length_cons] at h
        omega

/-- Where there is no match, nothing is replaced. -/
lemma subFrom_of_not_contains {repl} (h : ¬ Contains isWord r prev cs) :
    subFrom isWord r repl 0 prev cs = cs := by
  induction cs generalizing prev with
  | nil => rfl
  | cons c cs ih =>
    rw [contains_cons, not_or, ← matchAt_isSome] at h
    obtain ⟨here, later⟩ := h
    unfold subFrom
    rw [Option.not_isSome_iff_eq_none.mp here]
    exact congrArg (c :: ·) (ih later)

/-- The part of a result that lacks the beginning of the replacement text was there before. -/
lemma Replaced.split {first repl out} (h : Replaced isWord r (first :: repl) prev cs out)
    (e : out = token ++ rest) (bare : first ∉ token) :
    ∃ rest', cs = token ++ rest' ∧
      Replaced isWord r (first :: repl) (token.getLast?.or prev) rest' rest := by
  induction token generalizing prev cs out with
  | nil =>
    cases e
    exact ⟨cs, rfl, h⟩
  | cons c token ih =>
    cases h with
    | nil => cases e
    | keep _ later =>
      obtain ⟨rfl, rfl⟩ := List.cons.inj e
      obtain ⟨rest', rfl, replaced⟩ := ih later rfl (fun m => bare (List.mem_cons_of_mem _ m))
      refine ⟨rest', rfl, ?_⟩
      simpa [List.getLast?_cons] using replaced
    | replace _ _ later =>
      obtain ⟨rfl, _⟩ := List.cons.inj e
      exact absurd List.mem_cons_self bare

/-- A replacement text that keeps apart from the matches of a pattern: it begins and ends with
characters that no match contains and that are no word characters, every match has a character that
the text between them lacks, and no word goes on into or out of a match and makes another one. -/
structure Separated (isWord : Char → Bool) (r : Regex) (first : Char) (middle : List Char)
    (last : Char) : Prop where
  outer : isWord first = false ∧ isWord last = false
  bare : ∀ as ∈ r, ∀ prev token next, Matches isWord as prev token next →
    first ∉ token ∧ last ∉ token
  outside : ∀ as ∈ r, ∀ prev token next, Matches isWord as prev token next →
    ∃ c ∈ token, c ∉ middle
  opens : ∀ as ∈ r, ∀ prev token next, Matches isWord as prev token next →
    prev.any isWord = true → token.head?.any isWord = false
  closes : ∀ prev token rest, matchAt isWord r prev (token ++ rest) = some token.length →
    token.getLast?.any isWord = true → rest.head?.any isWord = true →
      ∀ as ∈ r, ∀ prev' token' next', Matches isWord as prev' token' next' →
        token'.head? ≠ rest.head?

namespace Separated

variable {first last : Char} {middle out : List Char}

/-- No match is empty. -/
lemma ne_nil (s : Separated isWord r first middle last) (member : as ∈ r)
    (h : Matches isWord as prev token next) : token ≠ [] := by
  rintro rfl
  obtain ⟨c, there, _⟩ := s.outside as member _ _ _ h
  cases there

/-- A boundary before the result is one before the text it was made from. -/
lemma edge (s : Separated isWord r first middle last)
    (h : Replaced isWord r (first :: (middle ++ [last])) prev cs out)
    (edge : atBoundary isWord prev out.head? = true) : atBoundary isWord prev cs.head? = true := by
  cases h with
  | nil => exact edge
  | keep _ _ => exact edge
  | @replace _ matched later out some found _ =>
    have word : prev.any isWord = true := by simpa [atBoundary, s.outer.1] using edge
    obtain ⟨as, member, found⟩ := matchAt_sound found
    have opens := s.opens as member _ _ _ (matchSeq_length found) word
    have head : (matched ++ later).head? = matched.head? := List.head?_append_of_ne_nil _ some
    rw [head]
    simp [atBoundary, word, opens]

/-- No match begins within the replacement text. -/
lemma replacement (s : Separated isWord r first middle last)
    (h : ¬ Contains isWord r (some last) out) :
    ¬ Contains isWord r prev (first :: (middle ++ [last]) ++ out) := by
  have within : ∀ part : List Char, part ⊆ middle → ∀ prev,
      ¬ Contains isWord r prev (part ++ last :: out) := by
    intro part
    induction part with
    | nil =>
      intro _ prev
      rw [List.nil_append, contains_cons, not_or]
      refine ⟨?_, h⟩
      rintro ⟨as, member, token, rest, split, found⟩
      cases token with
      | nil => exact s.ne_nil member found rfl
      | cons c token =>
        obtain ⟨rfl, _⟩ := List.cons.inj split
        exact (s.bare as member _ _ _ found).2 List.mem_cons_self
    | cons c part ih =>
      intro sub prev
      rw [List.cons_append, contains_cons, not_or]
      refine ⟨?_, ih (fun x m => sub (List.mem_cons_of_mem _ m)) _⟩
      rintro ⟨as, member, token, rest, split, found⟩
      obtain ⟨x, there, none⟩ := s.outside as member _ _ _ found
      rw [← List.cons_append] at split
      obtain ⟨more, e, beyond⟩ | ⟨more, e, _⟩ := List.append_eq_append_iff.mp split
      · cases more with
        | nil => exact none (sub (by simpa [e] using there))
        | cons b more =>
          obtain ⟨rfl, _⟩ := List.cons.inj beyond
          exact (s.bare as member _ _ _ found).2 (by simp [e])
      · exact none (sub (e ▸ List.mem_append_left _ there))
  rw [List.cons_append, contains_cons, not_or]
  constructor
  · rintro ⟨as, member, token, rest, split, found⟩
    cases token with
    | nil => exact s.ne_nil member found rfl
    | cons c token =>
      obtain ⟨rfl, _⟩ := List.cons.inj split
      exact (s.bare as member _ _ _ found).1 List.mem_cons_self
  · rw [List.append_assoc]
    exact within middle (List.Subset.refl _) _

/-- After a replacement no match is left. -/
lemma replaced (s : Separated isWord r first middle last)
    (h : Replaced isWord r (first :: (middle ++ [last])) prev cs out) :
    ¬ Contains isWord r prev out := by
  -- The text before `out` may end in a replacement where the one before `cs` ends in a match.
  suffices claim : ∀ prev', (prev' = prev ∨ prev'.any isWord = false ∧
      (prev.any isWord = true → cs.head?.any isWord = true →
        ∀ as ∈ r, ∀ p t n, Matches isWord as p t n → t.head? ≠ cs.head?)) →
      ¬ Contains isWord r prev' out from claim prev (.inl rfl)
  induction h with
  | nil =>
    rintro prev' _ ⟨before, after, split, as, member, token, rest, split', found⟩
    obtain ⟨rfl, rfl⟩ := List.append_eq_nil_iff.mp split.symm
    obtain ⟨rfl, rfl⟩ := List.append_eq_nil_iff.mp split'.symm
    exact s.ne_nil member found rfl
  | @keep prev c cs out unmatched later ih =>
    intro prev' compatible
    rw [contains_cons, not_or]
    refine ⟨?_, ih _ (.inl rfl)⟩
    rintro ⟨as, member, token, rest, split, found⟩
    have some := s.ne_nil member found
    obtain ⟨rest', split', goes⟩ :=
      (Replaced.keep unmatched later).split split (s.bare as member _ _ _ found).1
    have here : At isWord r prev (c :: cs) := by
      refine ⟨as, member, token, rest', split', (found.followed ?_).preceded ?_⟩
      · intro edge
        have last : ∀ p : Option Char, token.getLast?.or p = token.getLast? := by
          intro p
          rw [List.getLast?_eq_some_getLast some, Option.some_or]
        rw [last] at edge goes ⊢
        exact s.edge goes edge
      · intro edge
        obtain same | ⟨plain, apart⟩ := compatible
        · rwa [← same]
        · have head : token.head?.or rest'.head? = (c :: cs).head? := by
            rw [split', List.head?_append]
          have word : (c :: cs).head?.any isWord = true := by
            rw [← head]
            simpa [atBoundary, plain] using edge
          by_cases before : prev.any isWord = true
          · refine absurd ?_ (apart before word as member _ _ _ found)
            rw [split', List.head?_append_of_ne_nil _ some]
          · rw [head, atBoundary, word]
            simpa using before
    obtain ⟨n, taken⟩ := Option.isSome_iff_exists.mp (matchAt_isSome.mpr here)
    cases n with
    | succ n => exact unmatched n taken
    | zero =>
      obtain ⟨as', member', taken⟩ := matchAt_sound taken
      obtain ⟨token', _, _, length, found'⟩ := matchSeq_sound taken
      exact s.ne_nil member' found' (List.eq_nil_of_length_eq_zero length)
  | @replace prev matched cs out some found later ih =>
    intro prev' _
    apply s.replacement
    apply ih
    right
    refine ⟨by simp [s.outer.2], s.closes prev matched cs found⟩

/-- No match is left by `sub`. -/
theorem not_contains (s : Separated isWord r first middle last) (cs : List Char) :
    ¬ Contains isWord r prev (subFrom isWord r (first :: (middle ++ [last])) 0 prev cs) :=
  s.replaced (replaced_subFrom cs)

/-- A text that no match overlaps cannot be part of one. -/
lemma cut_of_match {part tail : List Char} {before after}
    (foreign : ∀ c ∈ tail, c ∉ token) (ne : token ≠ [])
    (split : part ++ tail = before ++ (token ++ after)) :
    ∃ more, part = before ++ (token ++ more) ∧ after = more ++ tail := by
  rw [← List.append_assoc] at split
  obtain ⟨more, e, beyond⟩ | ⟨more, e, e'⟩ := List.append_eq_append_iff.mp split
  · cases more.eq_nil_or_concat with
    | inl none =>
      subst none
      exact ⟨[], by simpa using e.symm, by simpa using beyond.symm⟩
    | inr some =>
      obtain ⟨init, c, rfl⟩ := some
      have there : c ∈ tail := by simp [beyond]
      have last : c ∈ token := by
        have e := congrArg List.getLast? e
        rw [List.getLast?_append_of_ne_nil _ ne] at e
        exact List.mem_of_getLast? (e.trans (by simp))
      exact absurd last (foreign c there)
  · exact ⟨more, by rw [e, List.append_assoc], e'⟩

end Separated

/-- The first `n` characters of a text end with a match, and a word character follows them. -/
def Splits (isWord : Char → Bool) (r : Regex) (n : Nat) (cs : List Char) : Prop :=
  ∃ before token, cs.take n = before ++ token ∧ (cs.drop n).head?.any isWord = true ∧
    ∃ as ∈ r, Matches isWord as before.getLast? token none

/-- Cutting a text without matches makes one exactly where it splits a word whose first part
matches. -/
theorem contains_cut_iff {n tail} (clean : ¬ Contains isWord r none cs)
    (plain : tail.head?.any isWord = false)
    (foreign : ∀ as ∈ r, ∀ prev token next, Matches isWord as prev token next →
      token ≠ [] ∧ ∀ c ∈ tail, c ∉ token) :
    Contains isWord r none (cs.take n ++ tail) ↔ Splits isWord r n cs := by
  constructor
  · rintro ⟨before, after, split, as, member, token, rest, rfl, found⟩
    obtain ⟨some, apart⟩ := foreign as member _ _ _ found
    obtain ⟨more, kept, rfl⟩ := Separated.cut_of_match apart some split
    have whole : cs = before ++ (token ++ (more ++ cs.drop n)) := by
      conv_lhs => rw [← List.take_append_drop n cs, kept]
      simp only [List.append_assoc]
    rw [Option.or_none] at found
    -- The same match in the whole text would need a boundary that the cut has made.
    have edge : ¬ (
        atBoundary isWord (token.getLast?.or before.getLast?) (more ++ tail).head? = true →
        atBoundary isWord (token.getLast?.or before.getLast?) (more ++ cs.drop n).head? = true) := by
      intro edge
      refine clean ⟨before, token ++ (more ++ cs.drop n), whole, as, member, token, _, rfl, ?_⟩
      rw [Option.or_none]
      exact found.followed edge
    cases more with
    | cons c more => exact absurd id edge
    | nil =>
      rw [List.nil_append] at edge found
      rw [List.append_nil] at kept
      obtain ⟨cut, whole⟩ := Classical.not_imp.mp edge
      have last : (token.getLast?.or before.getLast?).any isWord = true := by
        simpa [atBoundary, plain] using cut
      refine ⟨before, token, kept, ?_, as, member, found.followed ?_⟩
      · simpa [atBoundary, last] using whole
      · intro _
        simp [atBoundary, last]
  · rintro ⟨before, token, kept, _, as, member, found⟩
    refine ⟨before, token ++ tail, by rw [kept, List.append_assoc], as, member, token, tail, rfl,
      ?_⟩
    rw [Option.or_none]
    refine found.followed fun edge => ?_
    simpa [atBoundary, plain] using edge

/-- The least number of characters that an atom takes. -/
def minLength : Atom → Nat
  | .rep _ lo _ => lo
  | .boundary => 0

/-- A match is at least as long as the sum of the least repetitions. -/
lemma Matches.minLength_le (h : Matches isWord as prev token next) :
    (as.map minLength).sum ≤ token.length := by
  induction h with
  | nil => exact Nat.le_refl 0
  | boundary _ _ ih => simpa [minLength] using ih
  | rep _ lower _ _ ih =>
    rw [List.map_cons, List.sum_cons, List.length_append]
    exact Nat.add_le_add lower ih

/-- Replacing every match by a text that is no longer than any match makes no text longer. -/
lemma length_subFrom_le {repl : List Char}
    (short : ∀ as ∈ r, repl.length ≤ (as.map minLength).sum) {skip : Nat} :
    (subFrom isWord r repl skip prev cs).length ≤ cs.length - skip := by
  induction cs generalizing skip prev with
  | nil => simp [subFrom]
  | cons c cs ih =>
    cases skip with
    | succ skip =>
      rw [List.length_cons, Nat.add_sub_add_right]
      exact ih
    | zero =>
      unfold subFrom
      split
      · rename_i n found
        obtain ⟨as, member, found⟩ := matchAt_sound found
        obtain ⟨token, rest, split, length, found⟩ := matchSeq_sound found
        have least := Nat.le_trans (short as member) found.minLength_le
        have fits : token.length ≤ (c :: cs).length := by
          rw [split]
          simp
        have later := @ih (some c) n
        simp only [List.length_append, List.length_cons] at fits ⊢
        omega
      · have later := @ih (some c) 0
        simp only [List.length_cons]
        omega

end Regex

end SentinelOps
