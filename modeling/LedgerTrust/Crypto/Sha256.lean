import LedgerTrust.Data.Bytes

/-!
# SHA-256

`Sha256.hash` is the SHA-256 digest of a byte string. The message is padded to
whole blocks of 64 bytes; each block is expanded to a schedule of 64 words, and each
word, with its round constant, turns the eight words of the state once.
-/

namespace LedgerTrust.Sha256

/-- The eight words of the state. -/
structure State where
  (a b c d e f g h : UInt32)

/-- The state before the first block: 32 bits of the fractions of the square roots of the
first eight primes. -/
def State.initial : State :=
  ⟨0x6a09e667, 0xbb67ae85, 0x3c6ef372, 0xa54ff53a, 0x510e527f, 0x9b05688c,
   0x1f83d9ab, 0x5be0cd19⟩

/-- 32 bits of the fractions of the cube roots of the first 64 primes. -/
def roundConstants : List UInt32 :=
  [0x428a2f98, 0x71374491, 0xb5c0fbcf, 0xe9b5dba5, 0x3956c25b, 0x59f111f1,
   0x923f82a4, 0xab1c5ed5, 0xd807aa98, 0x12835b01, 0x243185be, 0x550c7dc3,
   0x72be5d74, 0x80deb1fe, 0x9bdc06a7, 0xc19bf174, 0xe49b69c1, 0xefbe4786,
   0x0fc19dc6, 0x240ca1cc, 0x2de92c6f, 0x4a7484aa, 0x5cb0a9dc, 0x76f988da,
   0x983e5152, 0xa831c66d, 0xb00327c8, 0xbf597fc7, 0xc6e00bf3, 0xd5a79147,
   0x06ca6351, 0x14292967, 0x27b70a85, 0x2e1b2138, 0x4d2c6dfc, 0x53380d13,
   0x650a7354, 0x766a0abb, 0x81c2c92e, 0x92722c85, 0xa2bfe8a1, 0xa81a664b,
   0xc24b8b70, 0xc76c51a3, 0xd192e819, 0xd6990624, 0xf40e3585, 0x106aa070,
   0x19a4c116, 0x1e376c08, 0x2748774c, 0x34b0bcb5, 0x391c0cb3, 0x4ed8aa4a,
   0x5b9cca4f, 0x682e6ff3, 0x748f82ee, 0x78a5636f, 0x84c87814, 0x8cc70208,
   0x90befffa, 0xa4506ceb, 0xbef9a3f7, 0xc67178f2]

/-- Rotation to the right by `n` bits. -/
def rotate (x : UInt32) (n : UInt32) : UInt32 := (x >>> n) ||| (x <<< (32 - n))

/-- The message schedule, latest word first, extended by `n` words. -/
def extend : Nat → List UInt32 → List UInt32
  | 0, w => w
  | n + 1, w =>
    let near := w.getD 1 0
    let far := w.getD 14 0
    let s₀ := rotate far 7 ^^^ rotate far 18 ^^^ (far >>> 3)
    let s₁ := rotate near 17 ^^^ rotate near 19 ^^^ (near >>> 10)
    extend n ((w.getD 15 0 + s₀ + w.getD 6 0 + s₁) :: w)

/-- The 64 words that a block is expanded to. -/
def schedule (block : Bytes) : List UInt32 :=
  let words := (block.chunks 3).map fun w => UInt32.ofNat (Bytes.ofBigEndian w)
  (extend 48 words.reverse).reverse

/-- One round, with `k` the sum of the round constant and the word of the schedule. -/
def State.turn (s : State) (k : UInt32) : State :=
  let sum₁ := rotate s.e 6 ^^^ rotate s.e 11 ^^^ rotate s.e 25
  let choice := (s.e &&& s.f) ^^^ (~~~s.e &&& s.g)
  let t₁ := s.h + sum₁ + choice + k
  let sum₀ := rotate s.a 2 ^^^ rotate s.a 13 ^^^ rotate s.a 22
  let majority := (s.a &&& s.b) ^^^ (s.a &&& s.c) ^^^ (s.b &&& s.c)
  ⟨t₁ + sum₀ + majority, s.a, s.b, s.c, s.d + t₁, s.e, s.f, s.g⟩

/-- The state after a block. -/
def State.absorb (s : State) (block : Bytes) : State :=
  let t := (List.zipWith (· + ·) roundConstants (schedule block)).foldl State.turn s
  ⟨s.a + t.a, s.b + t.b, s.c + t.c, s.d + t.d, s.e + t.e, s.f + t.f, s.g + t.g, s.h + t.h⟩

/-- The message with a one bit, zero bits, and its length in bits in the last 8 bytes. -/
def pad (message : Bytes) : Bytes :=
  let zeros := (120 - (message.length + 1) % 64) % 64
  message ++ 0x80 :: List.replicate zeros 0 ++ Bytes.bigEndian 8 (8 * message.length)

/-- The words of the state, one after the other. -/
def State.bytes (s : State) : Bytes :=
  let word (w : UInt32) := Bytes.bigEndian 4 w.toNat
  word s.a ++ word s.b ++ word s.c ++ word s.d ++ word s.e ++ word s.f ++ word s.g ++ word s.h

/-- The digest of a message. -/
def hash (message : Bytes) : Bytes :=
  (((pad message).chunks 63).foldl State.absorb State.initial).bytes

/-- A digest has 32 bytes. -/
@[simp]
theorem length_hash (message : Bytes) :
  (hash message).length = 32
  := by
  simp [hash, State.bytes]

end LedgerTrust.Sha256
