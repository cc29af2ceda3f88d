import LedgerTrust.Data.Bytes

/-!
# Hexadecimal digits

`Hex.encode` writes each byte as two lower-case digits, `Hex.decode` reads digits of either
case back. A text of odd length is refused before its digits are looked at, and the first
byte that is no digit is named with its position.
-/

namespace LedgerTrust.Hex

/-- The lower-case digit of a number below sixteen. -/
def digit (n : UInt8) : UInt8 := if n < 10 then 48 + n else 87 + n

/-- The value of a digit of either case. -/
def value? (c : UInt8) : Option UInt8 :=
  if 48 ≤ c ∧ c ≤ 57 then some (c - 48)
  else if 97 ≤ c ∧ c ≤ 102 then some (c - 87)
  else if 65 ≤ c ∧ c ≤ 70 then some (c - 55)
  else none

/-- The two digits of each byte, high digit first. -/
def encode (b : Bytes) : Bytes := b.flatMap fun x => [digit (x / 16), digit (x % 16)]

/-- The digits of a byte string as a text. -/
def text (b : Bytes) : String := String.ofList ((encode b).map fun c => Char.ofNat c.toNat)

/-- Why a text is not hexadecimal. -/
inductive Error where
  | oddLength
  | badDigit (byte : UInt8) (position : Nat)
  deriving DecidableEq, Repr

/-- The value of the digit at a position of the text. -/
def digitAt (c : UInt8) (position : Nat) : Except Error UInt8 :=
  match value? c with
  | some v => .ok v
  | none => .error (.badDigit c position)

/-- The bytes of consecutive pairs of digits, the first pair standing at `position`. -/
def decodePairs (position : Nat) : Bytes → Except Error Bytes
  | [] => .ok []
  | [_] => .error .oddLength
  | c :: d :: r => do
    let high ← digitAt c position
    let low ← digitAt d (position + 1)
    let rest ← decodePairs (position + 2) r
    return (high * 16 + low) :: rest

/-- The bytes that a text of digits stands for. -/
def decode (text : Bytes) : Except Error Bytes :=
  if text.length % 2 = 1 then .error .oddLength else decodePairs 0 text

/-- The bytes that a text of digits stands for, without the cause of a failure. -/
def decode? (text : Bytes) : Option Bytes := (decode text).toOption

theorem value?_digit {n : UInt8} (h : n < 16) :
  value? (digit n) = some n
  := by
  revert h
  revert n
  apply Bytes.forall_byte
  decide +kernel

theorem length_encode (b : Bytes) :
  (encode b).length = 2 * b.length
  := by
  induction b with
  | nil => rfl
  | cons x r ih =>
    rw [encode, List.flatMap_cons, List.length_append, ← encode, ih]
    simp
    omega

theorem digits_of_byte (x : UInt8) :
  x / 16 < 16 ∧ x % 16 < 16 ∧ x / 16 * 16 + x % 16 = x
  := by
  have hx := x.toNat_lt
  have hbase : (16 : UInt8).toNat = 16 := rfl
  simp only [UInt8.lt_iff_toNat_lt, ← UInt8.toNat_inj, UInt8.toNat_add, UInt8.toNat_mul,
    UInt8.toNat_div, UInt8.toNat_mod, hbase]
  omega

/-- What is written are digits. -/
theorem exists_digit_of_mem_encode {b : Bytes} {c : UInt8} (h : c ∈ encode b) :
  ∃ n < 16, c = digit n
  := by
  obtain ⟨x, -, hc⟩ := List.mem_flatMap.1 h
  obtain ⟨hhigh, hlow, -⟩ := digits_of_byte x
  simp only [List.mem_cons, List.not_mem_nil, or_false] at hc
  rcases hc with rfl | rfl
  · exact ⟨x / 16, hhigh, rfl⟩
  · exact ⟨x % 16, hlow, rfl⟩

theorem exists_digit_of_mem_text {b : Bytes} {c : Char} (h : c ∈ (text b).toList) :
  ∃ n < 16, c = Char.ofNat (digit n).toNat
  := by
  rw [text, String.toList_ofList] at h
  obtain ⟨d, hd, rfl⟩ := List.mem_map.1 h
  obtain ⟨n, hn, rfl⟩ := exists_digit_of_mem_encode hd
  exact ⟨n, hn, rfl⟩

theorem decodePairs_encode (b : Bytes) (position : Nat) :
  decodePairs position (encode b) = .ok b
  := by
  induction b generalizing position with
  | nil => rfl
  | cons x r ih =>
    obtain ⟨hhigh, hlow, hx⟩ := digits_of_byte x
    have h : encode (x :: r) = digit (x / 16) :: digit (x % 16) :: encode r := rfl
    rw [h, decodePairs, digitAt, digitAt, value?_digit hhigh, value?_digit hlow, ih]
    simp only [bind, Except.bind, pure, Except.pure, hx]

/-- The digits of a byte string are read back. -/
theorem decode_encode (b : Bytes) :
  decode (encode b) = .ok b
  := by
  simp [decode, length_encode, decodePairs_encode]

theorem decode?_encode (b : Bytes) :
  decode? (encode b) = some b
  := by
  simp [decode?, decode_encode, Except.toOption]

end LedgerTrust.Hex
