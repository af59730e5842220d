import Mathlib.Algebra.Group.Nat.Defs

/-!
# SHA-256

The hash function of FIPS 180-4 on byte strings, as `hashlib` computes it.  The
message schedule is kept as a window of sixteen words: a round uses the first
word and appends the one that follows from the window.
-/

namespace Caura.Value

/-- A byte string. -/
abbrev Bytes := List UInt8

namespace Sha256

/-- The first 32 bits of the fractional parts of the cube roots of the first 64
primes. -/
def roundConstants : List UInt32 :=
  [0x428a2f98, 0x71374491, 0xb5c0fbcf, 0xe9b5dba5, 0x3956c25b, 0x59f111f1,
    0x923f82a4, 0xab1c5ed5, 0xd807aa98, 0x12835b01, 0x243185be, 0x550c7dc3,
    0x72be5d74, 0x80deb1fe, 0x9bdc06a7, 0xc19bf174, 0xe49b69c1, 0xefbe4786,
    0x0fc19dc6, 0x240ca1cc, 0x2de92c6f, 0x4a7484aa, 0x5cb0a9dc, 0x76f988da,
    0x983e5152, 0xa831c66d, 0xb00327c8, 0xbf597fc7, 0xc6e00bf3, 0xd5a79147,
    0x06ca6351, 0x14292967, 0x27b70a85, 0x2e1b2138, 0x4d2c6dfc, 0x53380d13,
    0x650a7354, 0x766a0abb, 0x81c2c92e, 0x92722c85, 0xa2bfe8a1, 0xa81a664b,
    0xc24b8b70, 0xc76c51a3, 0xd192e819, 0xd6990624, 0xf40e3585, 0x106aa070,
    0x19a4c116, 0x1e376c08, 0x2748774c, 0x34b0bcb5, 0x391c0cb3, 0x4ed8aa4a,
    0x5b9cca4f, 0x682e6ff3, 0x748f82ee, 0x78a5636f, 0x84c87814, 0x8cc70208,
    0x90befffa, 0xa4506ceb, 0xbef9a3f7, 0xc67178f2]

/-- The eight working words. -/
structure State where
  a : UInt32
  b : UInt32
  c : UInt32
  d : UInt32
  e : UInt32
  f : UInt32
  g : UInt32
  h : UInt32
  deriving DecidableEq

/-- The initial hash value. -/
def initial : State :=
  ⟨0x6a09e667, 0xbb67ae85, 0x3c6ef372, 0xa54ff53a, 0x510e527f, 0x9b05688c, 0x1f83d9ab, 0x5be0cd19⟩

/-- Rotation to the right. -/
def rotr (word count : UInt32) : UInt32 :=
  (word >>> count) ||| (word <<< (32 - count))

/-- The word that follows a window of sixteen words of the schedule. -/
def nextWord (window : List UInt32) : UInt32 :=
  let word := fun index => window.getD index 0
  let sigma0 := rotr (word 1) 7 ^^^ rotr (word 1) 18 ^^^ (word 1 >>> 3)
  let sigma1 := rotr (word 14) 17 ^^^ rotr (word 14) 19 ^^^ (word 14 >>> 10)
  word 0 + sigma0 + word 9 + sigma1

/-- One round. -/
def round (constant word : UInt32) (state : State) : State :=
  let sum1 := rotr state.e 6 ^^^ rotr state.e 11 ^^^ rotr state.e 25
  let choice := (state.e &&& state.f) ^^^ (~~~ state.e &&& state.g)
  let first := state.h + sum1 + choice + constant + word
  let sum0 := rotr state.a 2 ^^^ rotr state.a 13 ^^^ rotr state.a 22
  let majority :=
    (state.a &&& state.b) ^^^ (state.a &&& state.c) ^^^ (state.b &&& state.c)
  ⟨first + (sum0 + majority), state.a, state.b, state.c, state.d + first, state.e,
    state.f, state.g⟩

/-- The rounds of one block. -/
def rounds : List UInt32 → List UInt32 → State → State
  | [], _, state => state
  | constant :: constants, window, state =>
    rounds constants (window.tail ++ [nextWord window]) (round constant (window.getD 0 0) state)

/-- The big-endian words of a block. -/
def words : Bytes → List UInt32
  | b0 :: b1 :: b2 :: b3 :: rest =>
    ((b0.toUInt32 <<< 24) ||| (b1.toUInt32 <<< 16) ||| (b2.toUInt32 <<< 8) |||
      b3.toUInt32) :: words rest
  | _ => []

/-- The compression of one block into the hash value. -/
def compress (state : State) (block : Bytes) : State :=
  let last := rounds roundConstants (words block) state
  ⟨state.a + last.a, state.b + last.b, state.c + last.c, state.d + last.d,
    state.e + last.e, state.f + last.f, state.g + last.g, state.h + last.h⟩

/-- The message, a one bit, zeros up to the last eight bytes of a block, and the
length in bits. -/
def pad (message : Bytes) : Bytes :=
  message ++ [0x80] ++ List.replicate ((119 - message.length % 64) % 64) 0 ++
    (List.range 8).reverse.map fun index =>
      UInt8.ofNat (8 * message.length / 256 ^ index)

/-- Compress `count` blocks. -/
def hashBlocks : Nat → State → Bytes → State
  | 0, state, _ => state
  | count + 1, state, bytes => hashBlocks count (compress state (bytes.take 64)) (bytes.drop 64)

/-- The big-endian bytes of a word. -/
def wordBytes (word : UInt32) : Bytes :=
  [(word >>> 24).toUInt8, (word >>> 16).toUInt8, (word >>> 8).toUInt8, word.toUInt8]

/-- The bytes of a hash value. -/
def digest (state : State) : Bytes :=
  wordBytes state.a ++ wordBytes state.b ++ wordBytes state.c ++
    wordBytes state.d ++ wordBytes state.e ++ wordBytes state.f ++
    wordBytes state.g ++ wordBytes state.h

end Sha256

/-- `hashlib.sha256(message).digest()`. -/
def sha256 (message : Bytes) : Bytes :=
  let padded := Sha256.pad message
  Sha256.digest (Sha256.hashBlocks (padded.length / 64) Sha256.initial padded)

/-- A digest has 32 bytes. -/
theorem length_sha256 (message : Bytes) : (sha256 message).length = 32 :=
  rfl

example : sha256 [0x61, 0x62, 0x63] =
    [0xba, 0x78, 0x16, 0xbf, 0x8f, 0x01, 0xcf, 0xea, 0x41, 0x41, 0x40, 0xde,
      0x5d, 0xae, 0x22, 0x23, 0xb0, 0x03, 0x61, 0xa3, 0x96, 0x17, 0x7a, 0x9c,
      0xb4, 0x10, 0xff, 0x61, 0xf2, 0x00, 0x15, 0xad] := by
  decide +kernel

end Caura.Value
