import SentinelOps.Remediation.Vocabulary
import SentinelOps.Lib.Dict
import SentinelOps.Lib.PyText
import SentinelOps.Lib.Regex

/-!
# The redaction boundary of the audit trail

The two patterns and the three filters every text and every metadata value of an audit event goes
through. `isWord` is the interpreter's table of word characters, which `\b` consults.
-/

namespace SentinelOps.Remediation

/-- `REDACTED`. -/
def redacted : String := "[REDACTED]"

/-- `[A-Z0-9]`. -/
def isUpperOrDigit (c : Char) : Bool := ('A' ≤ c && c ≤ 'Z') || c.isDigit

/-- One of the given characters. -/
def oneOf (cs : String) (c : Char) : Bool := cs.toList.contains c

open Atom in
/-- `_SENSITIVE_VALUE`. -/
def sensitiveValue : Regex :=
  [lit "-----BEGIN" ++ [one Py.isSpace, star fun c => isUpperOrDigit c || c == ' '] ++
      lit "PRIVATE" ++ [one Py.isSpace] ++ lit "KEY-----"] ++
  (["AKIA", "ASIA", "AROA", "AIDA"].map fun p =>
    [boundary] ++ lit p ++ [exactly 16 isUpperOrDigit, boundary]) ++
  [[boundary] ++ lit "gh" ++ [one (oneOf "posru")] ++ lit "_" ++
      [atLeast 20 Char.isAlphanum, boundary],
    [boundary] ++ lit "xox" ++ [one (oneOf "baprs")] ++ lit "-" ++
      [atLeast 10 fun c => c.isAlphanum || c == '-', boundary],
    [boundary] ++ lit "eyJ" ++ [atLeast 8 fun c => c.isAlphanum || oneOf "_-" c] ++ lit "." ++
      [atLeast 8 fun c => c.isAlphanum || oneOf "_-" c] ++ lit "." ++
      [atLeast 4 fun c => c.isAlphanum || oneOf "_-" c, boundary],
    [boundary] ++ lit "Bearer" ++ [atLeast 1 Py.isSpace,
      atLeast 8 fun c => c.isAlphanum || oneOf "._~+/-" c, rep (· == '=') 0 (some 2)],
    [boundary] ++ lit "AIza" ++ [atLeast 20 fun c => c.isAlphanum || oneOf "_-" c, boundary]]

/-- The characters that match a lower-case letter when case is ignored. -/
def ignoreCase (p c : Char) : Bool :=
  c == p || c == p.toUpper || (p == 's' && c.toNat == 0x17F) || (p == 'k' && c.toNat == 0x212A) ||
    (p == 'i' && (c.toNat == 0x130 || c.toNat == 0x131))

/-- A literal matched without regard to case. -/
def litIgnoreCase (s : String) : List Atom := s.toList.map fun p => Atom.one (ignoreCase p)

/-- `[_-]?`. -/
def optionalSeparator : List Atom := [.rep (oneOf "_-") 0 (some 1)]

/-- `_SENSITIVE_KEY`. -/
def sensitiveKey : Regex :=
  let joined (a b : String) := litIgnoreCase a ++ optionalSeparator ++ litIgnoreCase b
  [litIgnoreCase "secret", litIgnoreCase "token", litIgnoreCase "password", litIgnoreCase "passwd",
    litIgnoreCase "pwd", joined "api" "key", joined "access" "key", joined "secret" "key",
    litIgnoreCase "credential", litIgnoreCase "authorization", joined "auth" "header",
    joined "private" "key", litIgnoreCase "passphrase", litIgnoreCase "bearer",
    joined "session" "id", litIgnoreCase "cookie", joined "ssh" "key"]

/-- The interpreter's word characters. -/
abbrev WordTable := Char → Bool

/-- `redact_text`. -/
def redactText (isWord : WordTable) (value : String) : String :=
  let cleaned := Regex.sub isWord sensitiveValue redacted value
  if 1000 < cleaned.length then Py.takeFirst 999 cleaned ++ "…" else cleaned

/-- The value `redact_metadata` keeps under a key. -/
def redactValue (isWord : WordTable) (key : String) (raw : Scalar) : Scalar :=
  if Regex.search isWord sensitiveKey key then .str redacted
  else
    match raw with
    | .str s => .str (Py.takeFirst 500 (Regex.sub isWord sensitiveValue redacted s))
    | .int n => .int n
    | .bool b => .bool b

/-- `redact_metadata`: at most forty keys, sorted. -/
def redactMetadata (isWord : WordTable) (data : Dict String Scalar) : Dict String Scalar :=
  .ofList (((data.entries.mergeSort fun a b => Py.strLe a.1 b.1).take 40).map fun e =>
    (e.1, redactValue isWord e.1 e.2))

/-- `redact_identity`. -/
def redactIdentity (isWord : WordTable) (value : String) : String :=
  Py.orElse (Py.takeFirst 128 (redactText isWord value)) redacted

/-- Redacted text is within its cap. -/
lemma length_redactText_le {isWord value} : (redactText isWord value).length ≤ 1000 := by
  unfold redactText
  dsimp only
  split
  · have h : (Py.takeFirst 999 (Regex.sub isWord sensitiveValue redacted value)).length ≤ 999 :=
      Py.length_takeFirst_le
    rw [String.length_append]
    have : "…".length = 1 := by decide
    omega
  · omega

/-- A redacted identity is never empty and within the column it is stored in. -/
lemma length_redactIdentity {isWord value} :
    1 ≤ (redactIdentity isWord value).length ∧ (redactIdentity isWord value).length ≤ 128 := by
  unfold redactIdentity Py.orElse
  split
  · decide
  · rename_i h
    refine ⟨?_, Py.length_takeFirst_le⟩
    rw [Nat.one_le_iff_ne_zero]
    simpa using h

end SentinelOps.Remediation
