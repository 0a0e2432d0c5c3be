import Mathlib.Data.List.Basic

/-!
# Regular expressions as the `re` module runs them

The patterns of the services are alternatives of sequences whose only repetitions are of a single
character class, so a pattern is a list of lists of `Atom`s. Matching is the backtracking search of
`re`: alternatives in order, each repetition as long as possible first. `Regex.matchAt` is a match
at a given place, `Regex.search` asks whether there is one anywhere and `Regex.sub` replaces the
leftmost non-overlapping matches. What counts as a word character outside ASCII is a table of the
interpreter's Unicode version, so it is a parameter.
-/

namespace SentinelOps

/-- One element of a pattern. -/
inductive Atom where
  | rep (p : Char → Bool) (lo : Nat) (hi : Option Nat)
  | boundary

/-- Alternatives, tried in order. -/
abbrev Regex := List (List Atom)

namespace Atom

/-- A single character of a class. -/
def one (p : Char → Bool) : Atom := .rep p 1 (some 1)

/-- The atoms of a literal string. -/
def lit (s : String) : List Atom := s.toList.map fun c => one (· == c)

/-- `p*`. -/
def star (p : Char → Bool) : Atom := .rep p 0 none

/-- `p{n,}`. -/
def atLeast (n : Nat) (p : Char → Bool) : Atom := .rep p n none

/-- `p{n}`. -/
def exactly (n : Nat) (p : Char → Bool) : Atom := .rep p n (some n)

end Atom

namespace Regex

/-- `\b` between two neighbours, either of which may be missing. -/
def atBoundary (isWord : Char → Bool) (prev next : Option Char) : Bool :=
  prev.any isWord != next.any isWord

/-- How many leading characters are in the class, up to the bound. -/
def available (p : Char → Bool) (hi : Option Nat) (cs : List Char) : Nat :=
  let n := (cs.takeWhile p).length
  hi.elim n (min n)

/-- The counts a repetition tries: from the largest possible one down to its lower bound. -/
def counts (lo n : Nat) : List Nat := ((List.range (n + 1)).filter (lo ≤ ·)).reverse

/-- The length of the first match of a sequence at a place, after the character `prev`. -/
def matchSeq (isWord : Char → Bool) : List Atom → Option Char → List Char → Option Nat
  | [], _, _ => some 0
  | .boundary :: as, prev, cs =>
    if atBoundary isWord prev cs.head? then matchSeq isWord as prev cs else none
  | .rep p lo hi :: as, prev, cs =>
    (counts lo (available p hi cs)).findSome? fun n =>
      (matchSeq isWord as ((cs.take n).getLast?.or prev) (cs.drop n)).map (n + ·)

/-- The length of the match at a place, after the character `prev`. -/
def matchAt (isWord : Char → Bool) (r : Regex) (prev : Option Char) (cs : List Char) : Option Nat :=
  r.findSome? fun as => matchSeq isWord as prev cs

/-- `r.search(s) is not None`, from a place after the character `prev`. -/
def searchFrom (isWord : Char → Bool) (r : Regex) : Option Char → List Char → Bool
  | prev, [] => (matchAt isWord r prev []).isSome
  | prev, c :: cs => (matchAt isWord r prev (c :: cs)).isSome || searchFrom isWord r (some c) cs

/-- `r.search(s) is not None`. -/
def search (isWord : Char → Bool) (r : Regex) (s : String) : Bool :=
  searchFrom isWord r none s.toList

/-- `r.sub`, at a place after the character `prev` where the next `skip` characters belong to a
match that is already replaced. The pattern matches no empty string. -/
def subFrom (isWord : Char → Bool) (r : Regex) (repl : List Char) :
    Nat → Option Char → List Char → List Char
  | _, _, [] => []
  | skip + 1, _, c :: cs => subFrom isWord r repl skip (some c) cs
  | 0, prev, c :: cs =>
    match matchAt isWord r prev (c :: cs) with
    | some (n + 1) => repl ++ subFrom isWord r repl n (some c) cs
    | _ => c :: subFrom isWord r repl 0 (some c) cs

/-- `r.sub(repl, s)`. -/
def sub (isWord : Char → Bool) (r : Regex) (repl : String) (s : String) : String :=
  String.ofList (subFrom isWord r repl.toList 0 none s.toList)

end Regex

end SentinelOps
