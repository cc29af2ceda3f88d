import LedgerTrust.Crypto.Sha512

/-!
# Ed25519

Signatures over the twisted Edwards curve `-x² + y² = 1 + d x² y²` modulo `2 ^ 255 - 19`.
`Ed25519.publicKey` and `Ed25519.sign` are deterministic; `Ed25519.verify` is strict: the
scalar is reduced, neither the key nor the commitment has small order, and the commitment that
the equation asks for has exactly the bytes given. An encoding of a point may have a `y` that is
not reduced.
-/

namespace LedgerTrust.Ed25519

/-! ### The field -/

/-- The modulus of the field. -/
def fieldSize : Nat := (1 <<< 255) - 19

/-- The order of the base point. -/
def order : Nat := (1 <<< 252) + 27742317777372353535851937790883648493

def mul (x y : Nat) : Nat := x * y % fieldSize

def add (x y : Nat) : Nat := (x + y) % fieldSize

/-- The difference of reduced numbers. -/
def sub (x y : Nat) : Nat := (x + fieldSize - y) % fieldSize

/-- The power `x ^ n` in the field. -/
def pow (x n : Nat) : Nat :=
  if n = 0 then 1
  else
    let h := pow (mul x x) (n / 2)
    if n % 2 = 1 then mul x h else h
termination_by n
decreasing_by omega

def inverse (x : Nat) : Nat := pow x (fieldSize - 2)

/-- The coefficient `-121665 / 121666` of the curve. -/
def d : Nat := 37095705934669439343138083508754565189542113879843219016388785533085940283555

/-- A square root of `-1`. -/
def rootOfMinusOne : Nat :=
  19681161376707505956807079304988542015446066515923890162744021073123829784752

/-- The even root of `u / v`, if the quotient is a square. -/
def rootOfRatio? (u v : Nat) : Option Nat :=
  let v₃ := mul (mul v v) v
  let r := mul (mul u v₃) (pow (mul u (mul (mul v₃ v₃) v)) ((fieldSize - 5) / 8))
  let check := mul v (mul r r)
  let even (x : Nat) : Nat := if x % 2 = 1 then sub 0 x else x
  if check = u then some (even r)
  else if check = sub 0 u then some (even (mul r rootOfMinusOne))
  else none

/-! ### The curve -/

/-- A point `(x / z, y / z)` with `t = x y / z`. -/
structure Point where
  (x y z t : Nat)
  deriving DecidableEq, Repr

namespace Point

/-- The neutral point. -/
def zero : Point := ⟨0, 1, 1, 0⟩

/-- The point with affine coordinates `x` and `y`. -/
def affine (x y : Nat) : Point := ⟨x, y, 1, mul x y⟩

/-- The base point. -/
def base : Point :=
  affine 15112221349535400772501151409588531511454012693041857206046113283949847762202
    46316835694926478169428394003475163141307993866256225615783033603165251855960

def neg (p : Point) : Point := ⟨sub 0 p.x, p.y, p.z, sub 0 p.t⟩

def plus (p q : Point) : Point :=
  let a := mul (sub p.y p.x) (sub q.y q.x)
  let b := mul (add p.y p.x) (add q.y q.x)
  let c := mul (mul p.t q.t) (add d d)
  let e := mul (add p.z p.z) q.z
  let f := sub b a
  let g := sub e c
  let h := add e c
  let i := add b a
  ⟨mul f g, mul h i, mul g h, mul f i⟩

def double (p : Point) : Point := plus p p

/-- The sum of `n` copies of a point. -/
def times (n : Nat) (p : Point) : Point :=
  if n = 0 then zero
  else
    let h := times (n / 2) p.double
    if n % 2 = 1 then plus p h else h
termination_by n
decreasing_by omega

def isZero (p : Point) : Bool := p.x == 0 && p.y == p.z

/-- Whether eight copies of the point add up to the neutral point. -/
def hasSmallOrder (p : Point) : Bool := p.double.double.double.isZero

/-- The 32 bytes of a point: `y`, and in the last bit whether `x` is odd. -/
def compress (p : Point) : Bytes :=
  let z := inverse p.z
  Bytes.littleEndian 32 (mul p.y z + (mul p.x z % 2) <<< 255)

/-- The point of 32 bytes, with `y` taken modulo the size of the field. -/
def decompress? (b : Bytes) : Option Point := do
  let n := Bytes.ofLittleEndian b
  let y := n % (1 <<< 255) % fieldSize
  let y₂ := mul y y
  let x ← rootOfRatio? (sub y₂ 1) (add (mul d y₂) 1)
  return affine (if (n >>> 255) % 2 = 1 then sub 0 x else x) y

end Point

/-! ### Signatures -/

/-- The number of a digest. -/
def hashNumber (b : Bytes) : Nat := Bytes.ofLittleEndian (Sha512.hash b)

/-- The secret scalar and the secret part of nonces, from a seed of 32 bytes. -/
def expand (seed : Bytes) : Nat × Bytes :=
  let h := Sha512.hash seed
  let n := Bytes.ofLittleEndian (h.take 32)
  (n % (1 <<< 254) / 8 * 8 + (1 <<< 254), h.drop 32)

/-- The public key of a seed. -/
def publicKey (seed : Bytes) : Bytes := (Point.times (expand seed).1 Point.base).compress

/-- The signature of a message. -/
def sign (seed message : Bytes) : Bytes :=
  let (a, nonce) := expand seed
  let r := hashNumber (nonce ++ message) % order
  let commitment := (Point.times r Point.base).compress
  let k := hashNumber (commitment ++ publicKey seed ++ message) % order
  commitment ++ Bytes.littleEndian 32 ((r + k * a) % order)

/-- Whether a signature of 64 bytes is one of the message under the key. -/
def verify (key message signature : Bytes) : Bool :=
  let commitment := signature.take 32
  let s := Bytes.ofLittleEndian (signature.drop 32)
  match Point.decompress? key, Point.decompress? commitment with
  | some a, some r =>
    let k := hashNumber (commitment ++ key ++ message) % order
    s < order && !a.hasSmallOrder && !r.hasSmallOrder
      && (Point.plus (Point.times s Point.base) (Point.times k a.neg)).compress == commitment
  | _, _ => false

end LedgerTrust.Ed25519
