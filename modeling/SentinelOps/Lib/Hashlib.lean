import SentinelOps.Lib.PyText

/-!
# Digests and hexadecimal text

SHA-256, HMAC and PBKDF2 on byte strings, as `hashlib` computes them, and the hexadecimal text of a
byte string with `bytes.fromhex`, which reads it back. Callers rely on the length of a digest
(`length_pbkdf2`) and on the text of bytes (`fromhex_hex`, `not_mem_hex`); that digests of different
inputs differ is not a fact about these functions.
-/

namespace SentinelOps.Hashlib

/-- The first 32 bits of the fractional parts of the cube roots of the first 64 primes. -/
def constants : List UInt32 :=
  [0x428a2f98, 0x71374491, 0xb5c0fbcf, 0xe9b5dba5, 0x3956c25b, 0x59f111f1, 0x923f82a4, 0xab1c5ed5,
   0xd807aa98, 0x12835b01, 0x243185be, 0x550c7dc3, 0x72be5d74, 0x80deb1fe, 0x9bdc06a7, 0xc19bf174,
   0xe49b69c1, 0xefbe4786, 0x0fc19dc6, 0x240ca1cc, 0x2de92c6f, 0x4a7484aa, 0x5cb0a9dc, 0x76f988da,
   0x983e5152, 0xa831c66d, 0xb00327c8, 0xbf597fc7, 0xc6e00bf3, 0xd5a79147, 0x06ca6351, 0x14292967,
   0x27b70a85, 0x2e1b2138, 0x4d2c6dfc, 0x53380d13, 0x650a7354, 0x766a0abb, 0x81c2c92e, 0x92722c85,
   0xa2bfe8a1, 0xa81a664b, 0xc24b8b70, 0xc76c51a3, 0xd192e819, 0xd6990624, 0xf40e3585, 0x106aa070,
   0x19a4c116, 0x1e376c08, 0x2748774c, 0x34b0bcb5, 0x391c0cb3, 0x4ed8aa4a, 0x5b9cca4f, 0x682e6ff3,
   0x748f82ee, 0x78a5636f, 0x84c87814, 0x8cc70208, 0x90befffa, 0xa4506ceb, 0xbef9a3f7, 0xc67178f2]

/-- Rotation to the right by less than 32. -/
def rotr (x n : UInt32) : UInt32 := (x >>> n) ||| (x <<< (32 - n))

/-- The big-endian words of a byte string. -/
def words : List UInt8 → List UInt32
  | a :: b :: c :: d :: rest =>
    ((a.toUInt32 <<< 24) ||| (b.toUInt32 <<< 16) ||| (c.toUInt32 <<< 8) ||| d.toUInt32) :: words rest
  | _ => []

/-- The big-endian bytes of a word. -/
def bytes (x : UInt32) : List UInt8 :=
  [(x >>> 24).toUInt8, (x >>> 16).toUInt8, (x >>> 8).toUInt8, x.toUInt8]

/-- One more word of the message schedule. -/
def extend (w : List UInt32) : List UInt32 :=
  let at' (back : Nat) := w.getD (w.length - back) 0
  let s0 := rotr (at' 15) 7 ^^^ rotr (at' 15) 18 ^^^ (at' 15 >>> 3)
  let s1 := rotr (at' 2) 17 ^^^ rotr (at' 2) 19 ^^^ (at' 2 >>> 10)
  w ++ [at' 16 + s0 + at' 7 + s1]

/-- The message schedule of a block. -/
def schedule (block : List UInt8) : List UInt32 :=
  (List.range 48).foldl (fun w _ => extend w) (words block)

/-- The eight words of the chaining state. -/
structure State where
  a : UInt32
  b : UInt32
  c : UInt32
  d : UInt32
  e : UInt32
  f : UInt32
  g : UInt32
  h : UInt32

/-- The initial state. -/
def State.initial : State :=
  ⟨0x6a09e667, 0xbb67ae85, 0x3c6ef372, 0xa54ff53a, 0x510e527f, 0x9b05688c, 0x1f83d9ab, 0x5be0cd19⟩

/-- One round, with its constant and its word of the schedule. -/
def State.round (s : State) (k w : UInt32) : State :=
  let ch := (s.e &&& s.f) ^^^ (~~~s.e &&& s.g)
  let maj := (s.a &&& s.b) ^^^ (s.a &&& s.c) ^^^ (s.b &&& s.c)
  let t1 := s.h + (rotr s.e 6 ^^^ rotr s.e 11 ^^^ rotr s.e 25) + ch + k + w
  let t2 := (rotr s.a 2 ^^^ rotr s.a 13 ^^^ rotr s.a 22) + maj
  ⟨t1 + t2, s.a, s.b, s.c, s.d + t1, s.e, s.f, s.g⟩

/-- The state after a block. -/
def State.compress (s : State) (block : List UInt8) : State :=
  let r := (constants.zip (schedule block)).foldl (fun r kw => r.round kw.1 kw.2) s
  ⟨s.a + r.a, s.b + r.b, s.c + r.c, s.d + r.d, s.e + r.e, s.f + r.f, s.g + r.g, s.h + r.h⟩

/-- The bytes of the state. -/
def State.digest (s : State) : List UInt8 :=
  bytes s.a ++ bytes s.b ++ bytes s.c ++ bytes s.d ++ bytes s.e ++ bytes s.f ++ bytes s.g ++ bytes s.h

/-- A message, padded to whole blocks: a one bit, zeros and the length in bits. -/
def pad (m : List UInt8) : List UInt8 :=
  let bits : UInt64 := 8 * m.length.toUInt64
  m ++ (0x80 : UInt8) :: List.replicate ((119 - m.length % 64) % 64) 0 ++
    bytes (bits >>> 32).toUInt32 ++ bytes bits.toUInt32

/-- The blocks of 64 bytes. -/
def blocks (m : List UInt8) : List (List UInt8) :=
  (List.range (m.length / 64)).map fun i => (m.drop (64 * i)).take 64

/-- `hashlib.sha256(m).digest()`. -/
def sha256 (m : List UInt8) : List UInt8 := ((blocks (pad m)).foldl State.compress .initial).digest

/-- `hmac.digest(key, m, "sha256")`. -/
def hmac (key m : List UInt8) : List UInt8 :=
  let short := if 64 < key.length then sha256 key else key
  let block := short ++ List.replicate (64 - short.length) 0
  sha256 (block.map (· ^^^ 0x5c) ++ sha256 (block.map (· ^^^ 0x36) ++ m))

/-- The further iterations of PBKDF2: the last digest and the sum of all so far. -/
def iterate (password : List UInt8) : Nat → List UInt8 → List UInt8 → List UInt8
  | 0, _, sum => sum
  | n + 1, u, sum =>
    let next := hmac password u
    iterate password n next (sum.zipWith (· ^^^ ·) next)

/-- `hashlib.pbkdf2_hmac("sha256", password, salt, iterations)`, which is one block long. -/
def pbkdf2 (password salt : List UInt8) (iterations : Nat) : List UInt8 :=
  let first := hmac password (salt ++ [0, 0, 0, 1])
  iterate password (iterations - 1) first first

/-- `b.hex()`, for one byte. -/
def hexByte (b : UInt8) : List Char := [Py.hexDigit (b.toNat / 16), Py.hexDigit (b.toNat % 16)]

/-- `bs.hex()`. -/
def hex (bs : List UInt8) : List Char := bs.flatMap hexByte

/-- The value of a hexadecimal digit. -/
def hexValue (c : Char) : Option Nat :=
  let n := c.toNat
  if 48 ≤ n ∧ n ≤ 57 then some (n - 48)
  else if 97 ≤ n ∧ n ≤ 102 then some (n - 87)
  else if 65 ≤ n ∧ n ≤ 70 then some (n - 55)
  else none

/-- White space of ASCII. -/
def isAsciiSpace (c : Char) : Bool := c == ' ' || (9 ≤ c.toNat && c.toNat ≤ 13)

/-- `bytes.fromhex`, which skips white space between bytes, or `none` for a `ValueError`. -/
def fromhex : List Char → Option (List UInt8)
  | [] => some []
  | [c] => if isAsciiSpace c then some [] else none
  | c :: d :: rest =>
    if isAsciiSpace c then fromhex (d :: rest)
    else do
      let high ← hexValue c
      let low ← hexValue d
      let bs ← fromhex rest
      return UInt8.ofNat (16 * high + low) :: bs

example : String.ofList (hex (sha256 [97, 98, 99])) =
    "ba7816bf8f01cfea414140de5dae2223b00361a396177a9cb410ff61f20015ad" := by decide +kernel

section Lengths

/-- A digest has 32 bytes. -/
lemma length_digest {s : State} : s.digest.length = 32 := rfl

/-- The length of an authentication code. -/
lemma length_hmac {key m : List UInt8} : (hmac key m).length = 32 := length_digest

/-- The further iterations keep the length. -/
lemma length_iterate {password : List UInt8} {n u sum} (h : sum.length = 32) :
    (iterate password n u sum).length = 32 := by
  induction n generalizing u sum with
  | zero => exact h
  | succ n ih =>
    refine ih ?_
    rw [List.length_zipWith, h, length_hmac]
    rfl

/-- The length of a derived key. -/
lemma length_pbkdf2 {password salt : List UInt8} {n} : (pbkdf2 password salt n).length = 32 :=
  length_iterate length_hmac

/-- The length of the text of bytes. -/
lemma length_hex {bs : List UInt8} : (hex bs).length = 2 * bs.length := by
  induction bs with
  | nil => rfl
  | cons b bs ih =>
    have split : (hex (b :: bs)).length = 2 + (hex bs).length := by simp [hex, hexByte]; omega
    rw [split, ih, List.length_cons]
    omega

end Lengths

section Digits

/-- A digit is read as what it was written for, and is neither white space nor a dollar sign. -/
lemma hexDigit_spec : ∀ d < 16, hexValue (Py.hexDigit d) = some d ∧
    isAsciiSpace (Py.hexDigit d) = false ∧ Py.hexDigit d ≠ '$' := by decide

/-- The halves of a byte are digits. -/
lemma halves {b : UInt8} : b.toNat / 16 < 16 ∧ b.toNat % 16 < 16 := by
  have := b.toNat_lt
  omega

/-- The text of bytes is read as those bytes. -/
lemma fromhex_hex {bs : List UInt8} : fromhex (hex bs) = some bs := by
  induction bs with
  | nil => rfl
  | cons b bs ih =>
    obtain ⟨high, no_space, _⟩ := hexDigit_spec _ (halves (b := b)).1
    obtain ⟨low, _, _⟩ := hexDigit_spec _ (halves (b := b)).2
    have same : UInt8.ofNat (16 * (b.toNat / 16) + b.toNat % 16) = b := by
      rw [Nat.div_add_mod, UInt8.ofNat_toNat]
    show fromhex (_ :: _ :: hex bs) = _
    rw [fromhex, no_space, high, low, ih]
    show some (UInt8.ofNat (16 * (b.toNat / 16) + b.toNat % 16) :: bs) = _
    rw [same]

/-- There is no dollar sign in the text of bytes. -/
lemma not_mem_hex {bs : List UInt8} : '$' ∉ hex bs := by
  intro mem
  obtain ⟨b, _, found⟩ := List.mem_flatMap.mp mem
  have first := (hexDigit_spec _ (halves (b := b)).1).2.2
  have second := (hexDigit_spec _ (halves (b := b)).2).2.2
  simp [hexByte, first.symm, second.symm] at found

/-- The text of bytes determines them. -/
lemma hex_injective {bs bs' : List UInt8} (h : hex bs = hex bs') : bs = bs' := by
  have read : fromhex (hex bs) = fromhex (hex bs') := by rw [h]
  rw [fromhex_hex, fromhex_hex] at read
  exact Option.some.inj read

end Digits

end SentinelOps.Hashlib
