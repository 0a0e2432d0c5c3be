import Mathlib.Data.List.Lex
import Mathlib.Data.Rat.Floor

/-!
# Text as Python sees it

The operations on `str`, on numbers and on timestamps that the services use to build messages:
`strip`, slicing, `repr`, fixed-point formatting, `isoformat`. A string is a sequence of Unicode
characters; a timestamp (`Instant`) is an aware UTC `datetime`, counted in microseconds from the
epoch, and a duration is a number of microseconds, so that comparing `total_seconds()` with a
number of seconds is exact.
-/

namespace SentinelOps

/-- An aware UTC `datetime`: microseconds since 1970-01-01T00:00:00Z. -/
abbrev Instant := Int

/-- `timedelta(seconds=n)`, in microseconds. -/
def seconds (n : Int) : Int := n * 1000000

namespace Py

/-- `str.isspace` on one character. -/
def isSpace (c : Char) : Bool :=
  let n := c.toNat
  (9 ≤ n && n ≤ 13) || (28 ≤ n && n ≤ 32) || n == 0x85 || n == 0xA0 || n == 0x1680 ||
    (0x2000 ≤ n && n ≤ 0x200A) || n == 0x2028 || n == 0x2029 || n == 0x202F || n == 0x205F ||
    n == 0x3000

/-- `s.strip()`. -/
def strip (s : String) : String :=
  String.ofList ((s.toList.dropWhile isSpace).reverse.dropWhile isSpace).reverse

/-- `s[:n]`. -/
def takeFirst (n : Nat) (s : String) : String := String.ofList (s.toList.take n)

/-- `a or b` on strings: the first one unless it is empty. -/
def orElse (a b : String) : String := if a = "" then b else a

/-- `sep.join(xs)`. -/
def join (sep : String) : List String → String
  | [] => ""
  | [x] => x
  | x :: xs => x ++ sep ++ join sep xs

/-- One hexadecimal digit. -/
def hexDigit (n : Nat) : Char := if n < 10 then Char.ofNat (48 + n) else Char.ofNat (87 + n)

/-- The escape `repr` writes for one character inside the given quote. -/
def reprChar (quote c : Char) : List Char :=
  if c = quote || c = '\\' then ['\\', c]
  else if c = '\n' then ['\\', 'n']
  else if c = '\r' then ['\\', 'r']
  else if c = '\t' then ['\\', 't']
  else if c.toNat < 32 || c.toNat = 127 then
    ['\\', 'x', hexDigit (c.toNat / 16), hexDigit (c.toNat % 16)]
  else [c]

/-- `repr(s)` for a string of printable and ASCII control characters. -/
def repr (s : String) : String :=
  let quote := if s.toList.contains '\'' && !s.toList.contains '"' then '"' else '\''
  String.ofList ([quote] ++ s.toList.flatMap (reprChar quote) ++ [quote])

/-- `str(b)` for a `bool`. -/
def boolStr (b : Bool) : String := if b then "True" else "False"

/-- `str(xs)` for a list of strings. -/
def reprList (xs : List String) : String := "[" ++ join ", " (xs.map repr) ++ "]"

/-- The code-point order Python sorts strings by. -/
def strLe (a b : String) : Bool := decide (a.toList.map Char.toNat ≤ b.toList.map Char.toNat)

/-- `sorted(xs)` on strings. -/
def sortedStr (xs : List String) : List String := xs.mergeSort strLe

/-- Round to the nearest integer, a tie to the even one. -/
def roundHalfEven (q : ℚ) : Int :=
  let below := q.floor
  if q - below < 1 / 2 then below
  else if 1 / 2 < q - below then below + 1
  else if below % 2 = 0 then below
  else below + 1

/-- `round(q, d)`. -/
def roundTo (d : Nat) (q : ℚ) : ℚ := roundHalfEven (q * 10 ^ d) / 10 ^ d

/-- A number padded with zeros on the left to the given width. -/
def padZeros (width n : Nat) : String :=
  let digits := (toString n).toList
  String.ofList (List.replicate (width - digits.length) '0' ++ digits)

/-- `f"{q:.df}"`. -/
def fixed (d : Nat) (q : ℚ) : String :=
  let scaled := (roundHalfEven (|q| * 10 ^ d)).toNat
  let sign := if q < 0 then "-" else ""
  let fraction := if d = 0 then "" else "." ++ padZeros d (scaled % 10 ^ d)
  sign ++ toString (scaled / 10 ^ d) ++ fraction

/-- The number of decimals (at least one, at most seventeen) that show a decimal value exactly. -/
def decimals (q : ℚ) : Nat := ((List.range 17).find? fun d => (q * 10 ^ (d + 1)).den == 1).elim 17 (· + 1)

/-- `str(x)` for a float that is a decimal of moderate size. -/
def floatStr (q : ℚ) : String := fixed (decimals q) q

/-- Year, month and day of a day counted from 1970-01-01, in the proleptic Gregorian calendar. -/
def civil (days : Int) : Int × Int × Int :=
  let z := days + 719468
  let era := z / 146097
  let doe := z % 146097
  let yoe := (doe - doe / 1460 + doe / 36524 - doe / 146096) / 365
  let doy := doe - (365 * yoe + yoe / 4 - yoe / 100)
  let mp := (5 * doy + 2) / 153
  let day := doy - (153 * mp + 2) / 5 + 1
  let month := if mp < 10 then mp + 3 else mp - 9
  let year := yoe + era * 400 + (if month ≤ 2 then 1 else 0)
  (year, month, day)

/-- `dt.isoformat()` of an aware UTC timestamp. -/
def isoformat (t : Instant) : String :=
  let (year, month, day) := civil (t / 86400000000)
  let us := (t % 86400000000).toNat
  let micro := us % 1000000
  let secs := us / 1000000
  padZeros 4 year.toNat ++ "-" ++ padZeros 2 month.toNat ++ "-" ++ padZeros 2 day.toNat ++ "T" ++
    padZeros 2 (secs / 3600) ++ ":" ++ padZeros 2 (secs / 60 % 60) ++ ":" ++ padZeros 2 (secs % 60) ++
    (if micro = 0 then "" else "." ++ padZeros 6 micro) ++ "+00:00"

/-- A truncated string is no longer than the cut. -/
lemma length_takeFirst_le {n s} : (takeFirst n s).length ≤ n := by
  simp [takeFirst]

/-- The escape of a character is short. -/
lemma length_reprChar_le (quote c : Char) : (reprChar quote c).length ≤ 4 := by
  unfold reprChar
  split_ifs <;> simp

/-- The representation of a text is at most four times as long as the text, and its quotes. -/
lemma length_repr_le {s : String} : (repr s).length ≤ 4 * s.length + 2 := by
  have body (quote : Char) : ∀ cs : List Char,
      (cs.flatMap (reprChar quote)).length ≤ 4 * cs.length := by
    intro cs
    induction cs with
    | nil => simp
    | cons c cs ih =>
      have one := length_reprChar_le quote c
      simp only [List.flatMap_cons, List.length_append, List.length_cons]
      omega
  have quoted (quote : Char) := body quote s.toList
  simp only [String.length_toList] at quoted
  simp only [repr, String.length_ofList, List.length_append, List.length_singleton]
  have h := quoted (if (s.toList.contains '\'' && !s.toList.contains '"') = true then '"' else '\'')
  omega

end Py

end SentinelOps
