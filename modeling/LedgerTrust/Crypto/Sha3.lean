import LedgerTrust.Data.Bytes

/-!
# SHA3-256

`Sha3.hash` is the SHA3-256 digest of a byte string. The state has twenty-five lanes of
64 bits, lane `(x, y)` at position `x + 5 * y`; the message is padded to whole blocks of 136
bytes, each block is added into the first seventeen lanes, and the state is permuted by
twenty-four rounds after each. The digest is the first four lanes.
-/

namespace LedgerTrust.Sha3

/-- The lanes of the state. -/
abbrev State := Vector UInt64 25

/-- The lane at column `x` and row `y`, both taken modulo five. -/
def State.lane (s : State) (x y : Nat) : UInt64 :=
  s.get ⟨x % 5 + 5 * (y % 5), by omega⟩

/-- The state whose lane at column `x` and row `y` is `f x y`. -/
def State.ofLanes (f : Nat → Nat → UInt64) : State :=
  Vector.ofFn fun i => f (i.val % 5) (i.val / 5)

/-- The rotation of each lane, in the order of the lanes. -/
def offsets : State :=
  #v[0, 1, 62, 28, 27, 36, 44, 6, 55, 20, 3, 10, 43,
     25, 39, 41, 45, 15, 21, 8, 18, 2, 61, 56, 14]

/-- The words added into the first lane, one per round. -/
def roundConstants : List UInt64 :=
  [0x0000000000000001, 0x0000000000008082, 0x800000000000808a, 0x8000000080008000,
   0x000000000000808b, 0x0000000080000001, 0x8000000080008081, 0x8000000000008009,
   0x000000000000008a, 0x0000000000000088, 0x0000000080008009, 0x000000008000000a,
   0x000000008000808b, 0x800000000000008b, 0x8000000000008089, 0x8000000000008003,
   0x8000000000008002, 0x8000000000000080, 0x000000000000800a, 0x800000008000000a,
   0x8000000080008081, 0x8000000000008080, 0x0000000080000001, 0x8000000080008008]

/-- Rotation to the left by `n` bits. -/
def rotate (x : UInt64) (n : UInt64) : UInt64 := (x <<< n) ||| (x >>> ((64 - n) % 64))

/-- Each lane is added the parities of two neighbouring columns. -/
def State.mixColumns (s : State) : State :=
  let parity : Vector UInt64 5 := Vector.ofFn fun x =>
    s.lane x 0 ^^^ s.lane x 1 ^^^ s.lane x 2 ^^^ s.lane x 3 ^^^ s.lane x 4
  let column (x : Nat) : UInt64 := parity.get ⟨x % 5, by omega⟩
  State.ofLanes fun x y => s.lane x y ^^^ column (x + 4) ^^^ rotate (column (x + 1)) 1

/-- Each lane is rotated and moved to its new place. -/
def State.moveLanes (s : State) : State :=
  State.ofLanes fun x y =>
    rotate (s.lane (x + 3 * y) x) (offsets.lane (x + 3 * y) x)

/-- Each lane is combined with the next two of its row. -/
def State.mixRows (s : State) : State :=
  State.ofLanes fun x y => s.lane x y ^^^ (~~~s.lane (x + 1) y &&& s.lane (x + 2) y)

/-- One round with constant `k`. -/
def State.turn (s : State) (k : UInt64) : State :=
  let t := s.mixColumns.moveLanes.mixRows
  t.set 0 (t[0] ^^^ k)

/-- The permutation of the state. -/
def State.permute (s : State) : State := roundConstants.foldl State.turn s

/-- The state after a block. -/
def State.absorb (s : State) (block : Bytes) : State :=
  let words := (block.chunks 7).map fun w => UInt64.ofNat (Bytes.ofLittleEndian w)
  (State.ofLanes fun x y => s.lane x y ^^^ words.getD (x + 5 * y) 0).permute

/-- The message padded to whole blocks: the bits `01`, a one bit, zero bits and a last one
bit. -/
def pad (message : Bytes) : Bytes :=
  match 135 - message.length % 136 with
  | 0 => message ++ [0x86]
  | zeros + 1 => message ++ 0x06 :: List.replicate zeros 0 ++ [0x80]

/-- The digest of a message. -/
def hash (message : Bytes) : Bytes :=
  let s := ((pad message).chunks 135).foldl State.absorb (Vector.replicate 25 0)
  let word (x : Nat) := Bytes.littleEndian 8 (s.lane x 0).toNat
  word 0 ++ word 1 ++ word 2 ++ word 3

/-- A digest has 32 bytes. -/
@[simp]
theorem length_hash (message : Bytes) :
  (hash message).length = 32
  := by
  simp [hash]

end LedgerTrust.Sha3
