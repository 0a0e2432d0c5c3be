import SentinelOps.Lib.Fallible
import SentinelOps.Lib.Dict
import SentinelOps.Remediation.Routes

/-!
# Bearer tokens

What the platform API signs into a token and how a request presents it. The header is taken apart in
two places: `bearerToken` of the platform API and the shared dependency of the services, which cut it
differently; `sharedToken_eq_some` says that they find the same token. The JWT library belongs to
neither; `Jwt` is what both rely on, at the one secret and algorithm that all services are configured
with.
-/

namespace SentinelOps.Auth

open Remediation (AuthenticatedUser)

/-- An error that a request is answered with. -/
structure HttpError where
  status : Nat
  detail : String
  deriving DecidableEq

/-- A value of a claim set. What it is besides a string or a number is read nowhere. -/
inductive ClaimValue where
  | str (s : String)
  | int (n : Int)
  | other

/-- The claims of a decoded token. -/
abbrev Claims := Dict String ClaimValue

/-- The payload that `create_access_token` signs. -/
structure Payload where
  sub : String
  role : String
  iat : Instant
  exp : Instant
  jti : String

/-- A timestamp inside a token, which counts whole seconds. -/
def timegm (t : Instant) : Int := t / 1000000

/-- The payload as a claim set. -/
def Payload.claims (p : Payload) : Claims :=
  Dict.ofList [("sub", .str p.sub), ("role", .str p.role), ("iat", .int (timegm p.iat)),
    ("exp", .int (timegm p.exp)), ("jti", .str p.jti)]

/-- `jwt.encode` and `jwt.decode` at the configured secret and algorithm; `none` is a `PyJWTError`.
A token is text, without white space. What was signed is read back from when it was issued until it
expires, and an empty text is refused. -/
structure Jwt where
  encode : Payload → String
  decode : String → Instant → Option Claims
  decode_encode : ∀ p now, decode (encode p) now =
    if seconds (timegm p.iat) ≤ now ∧ now < seconds (timegm p.exp) then some p.claims else none
  decode_empty : ∀ now, decode "" now = none
  encode_ne_empty : ∀ p, encode p ≠ ""
  compact : ∀ p, ∀ c ∈ (encode p).toList, Py.isSpace c = false

/-- `str.lower` on a character of a header, which is decoded as Latin-1. -/
def lowerChar (c : Char) : Char :=
  let n := c.toNat
  if (65 ≤ n ∧ n ≤ 90) ∨ (192 ≤ n ∧ n ≤ 222 ∧ n ≠ 215) then Char.ofNat (n + 32) else c

/-- `header.lower()`. -/
def lower (header : List Char) : List Char := header.map lowerChar

/-- What stands before the first blank. -/
def scheme (header : List Char) : List Char := header.takeWhile (· ≠ ' ')

/-- What stands after the first blank. -/
def afterBlank (header : List Char) : List Char := (header.dropWhile (· ≠ ' ')).tail

/-- The token of a header. -/
def credentials (header : List Char) : String := Py.strip (String.ofList (afterBlank header))

/-- `_bearer_token` of the platform API. -/
def bearerToken (header : Option String) : Option String :=
  match header with
  | none => none
  | some h =>
    if h = "" ∨ ¬ "bearer ".toList <+: lower h.toList then none else some (credentials h.toList)

/-- The token that the shared `get_current_user` finds. -/
def sharedToken (header : Option String) : Option String :=
  let h := (header.getD "").toList
  if lower (scheme h) ≠ "bearer".toList ∨ credentials h = "" then none else some (credentials h)

section Headers

/-- Only a blank is lowered to a blank. -/
lemma lowerChar_eq_blank {c : Char} : lowerChar c = ' ' ↔ c = ' ' := by
  simp only [lowerChar]
  split_ifs with upper
  · have value : (Char.ofNat (c.toNat + 32)).toNat = c.toNat + 32 := by
      have small : c.toNat + 32 < 0xd800 := by omega
      rw [Char.ofNat, dif_pos (Or.inl small)]
      rfl
    constructor
    · intro same
      rw [same] at value
      have : (' ' : Char).toNat = 32 := rfl
      omega
    · rintro rfl
      have : (' ' : Char).toNat = 32 := rfl
      omega
  · exact Iff.rfl

/-- A header is its scheme, and then nothing or a blank and the rest. -/
lemma header_cases (h : List Char) : (h = scheme h ∧ afterBlank h = []) ∨
    h = scheme h ++ ' ' :: afterBlank h := by
  have parts : scheme h ++ h.dropWhile (· ≠ ' ') = h := List.takeWhile_append_dropWhile
  match rest : h.dropWhile (· ≠ ' ') with
  | [] =>
    rw [rest, List.append_nil] at parts
    exact .inl ⟨parts.symm, by rw [afterBlank, rest]; rfl⟩
  | c :: cs =>
    have blank := List.head_dropWhile_not (fun c : Char => decide (c ≠ ' ')) (l := h)
      (by rw [rest]; exact List.cons_ne_nil _ _)
    simp only [rest, List.head_cons, decide_eq_false_iff_not, not_not] at blank
    subst blank
    refine .inr ?_
    rw [afterBlank, rest]
    rw [rest] at parts
    exact parts.symm

/-- There is no blank in a lowered scheme. -/
lemma blank_not_mem_scheme {h : List Char} : ' ' ∉ lower (scheme h) := by
  intro mem
  obtain ⟨c, found, same⟩ := List.mem_map.mp mem
  rw [lowerChar_eq_blank] at same
  have other := List.all_takeWhile (p := fun c : Char => decide (c ≠ ' ')) (l := h)
  rw [List.all_eq_true] at other
  simpa [same] using other c found

/-- The prefix that the platform API asks for is the scheme that the shared dependency asks for,
followed by a blank. -/
lemma bearer_prefix_iff {h : List Char} : "bearer ".toList <+: lower h ↔
    lower (scheme h) = "bearer".toList ∧ h = scheme h ++ ' ' :: afterBlank h := by
  have spelled : "bearer ".toList = "bearer".toList ++ [' '] := rfl
  rw [spelled]
  constructor
  · rintro ⟨rest, same⟩
    obtain ⟨whole, -⟩ | split := header_cases h
    · have mem : ' ' ∈ lower (scheme h) := by
        rw [← whole, ← same]
        simp
      exact absurd mem blank_not_mem_scheme
    · refine ⟨?_, split⟩
      have lowered : lower h = lower (scheme h) ++ ' ' :: lower (afterBlank h) := by
        conv_lhs => rw [split]
        simp [lower, lowerChar_eq_blank.mpr]
      rw [lowered, List.append_assoc] at same
      have cut (xs ys : List Char) (none : ' ' ∉ xs) :
          (xs ++ ' ' :: ys).takeWhile (· ≠ ' ') = xs := by
        rw [List.takeWhile_append_of_pos (by intro c mem; simp; rintro rfl; exact none mem)]
        simp
      rw [← cut (lower (scheme h)) (lower (afterBlank h)) blank_not_mem_scheme, ← same]
      exact cut _ rest (by decide)
  · rintro ⟨named, split⟩
    refine ⟨lower (afterBlank h), ?_⟩
    conv_rhs => rw [split]
    rw [← named]
    simp [lower, lowerChar_eq_blank.mpr]

/-- The shared dependency finds the token that the platform API finds, unless it is empty. -/
lemma sharedToken_eq_some {header t} :
    sharedToken header = some t ↔ bearerToken header = some t ∧ t ≠ "" := by
  cases header with
  | none => simp [sharedToken, bearerToken, lower, scheme]
  | some h =>
    show (if lower (scheme h.toList) ≠ "bearer".toList ∨ credentials h.toList = "" then none
        else some (credentials h.toList)) = some t ↔
      (if h = "" ∨ ¬ "bearer ".toList <+: lower h.toList then none
        else some (credentials h.toList)) = some t ∧ t ≠ ""
    by_cases asked : "bearer ".toList <+: lower h.toList
    · obtain ⟨named, split⟩ := bearer_prefix_iff.mp asked
      have written : h ≠ "" := by
        rintro rfl
        cases asked.length_le
      rw [if_neg (show ¬ (h = "" ∨ ¬ _) by simp only [written, asked]; decide)]
      by_cases empty : credentials h.toList = ""
      · rw [if_pos (Or.inr empty), empty]
        constructor
        · rintro ⟨⟩
        · rintro ⟨same, nonempty⟩
          exact absurd (Option.some.inj same).symm nonempty
      · rw [if_neg (not_or.mpr ⟨not_not.mpr named, empty⟩)]
        constructor
        · intro same
          exact ⟨same, Option.some.inj same ▸ empty⟩
        · exact fun found => found.1
    · rw [if_pos (Or.inr asked), if_pos]
      · simp
      · obtain ⟨-, nothing⟩ | split := header_cases h.toList
        · right
          rw [credentials, nothing]
          rfl
        · exact .inl fun named => asked (bearer_prefix_iff.mpr ⟨named, split⟩)

/-- Text without white space is not stripped of anything. -/
lemma strip_compact {s : String} (compact : ∀ c ∈ s.toList, Py.isSpace c = false) :
    Py.strip s = s := by
  have kept {l : List Char} (clean : ∀ c ∈ l, Py.isSpace c = false) :
      l.dropWhile Py.isSpace = l := by
    cases l with
    | nil => rfl
    | cons c cs => rw [List.dropWhile_cons_of_neg (by simp [clean c List.mem_cons_self])]
  rw [Py.strip, kept compact, kept (by simpa using compact), List.reverse_reverse,
    String.ofList_toList]

/-- The token of the header that a client makes of it. -/
lemma bearerToken_bearer {t : String} (compact : ∀ c ∈ t.toList, Py.isSpace c = false) :
    bearerToken (some ("Bearer " ++ t)) = some t := by
  have written : ("Bearer " ++ t).toList = "Bearer ".toList ++ t.toList := String.toList_append
  have parts : scheme ("Bearer " ++ t).toList = "Bearer".toList ∧
      afterBlank ("Bearer " ++ t).toList = t.toList := by
    rw [written]
    exact ⟨rfl, rfl⟩
  have asked : "bearer ".toList <+: lower ("Bearer " ++ t).toList := by
    rw [bearer_prefix_iff, parts.1, parts.2, written]
    exact ⟨by decide, rfl⟩
  have nonempty : "Bearer " ++ t ≠ "" := by
    intro none
    have := congrArg String.toList none
    rw [written] at this
    cases this
  show (if "Bearer " ++ t = "" ∨ ¬ "bearer ".toList <+: lower ("Bearer " ++ t).toList then none
      else some (credentials ("Bearer " ++ t).toList)) = some t
  rw [if_neg (not_or.mpr ⟨nonempty, not_not.mpr asked⟩), credentials, parts.2, String.ofList_toList,
    strip_compact compact]

end Headers

end SentinelOps.Auth
