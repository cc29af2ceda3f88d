/-!
# Byte strings

`Bytes` is the type of byte strings. `Bytes.ofText` is the UTF-8 form of a text and
`Bytes.toText?` reads it back; the bytes of a text are always readable, and a readable byte
string is the form of the text it gives. The little-endian and big-endian forms of words
are lists of fixed length.
-/

namespace LedgerTrust

/-- A byte string. -/
abbrev Bytes := List UInt8

namespace Bytes

/-! ### Text -/

/-- The UTF-8 form of a text. -/
def ofText (s : String) : Bytes := s.toUTF8.data.toList

/-- The text whose UTF-8 form is `b`, if there is one. -/
def toText? (b : Bytes) : Option String := String.fromUTF8? ⟨b.toArray⟩

theorem toText?_ofText (s : String) :
  toText? (ofText s) = some s
  := by
  have h : (⟨(ofText s).toArray⟩ : ByteArray) = s.toByteArray := rfl
  simp only [toText?, h, String.fromUTF8?, s.isValidUTF8, dite_true]
  rfl

theorem eq_ofText_of_toText? {b : Bytes} {s : String} (h : toText? b = some s) :
  b = ofText s
  := by
  simp only [toText?, String.fromUTF8?] at h
  split at h
  · cases h
    simp [ofText, String.fromUTF8, String.toUTF8]
  · cases h

/-- Texts with the same UTF-8 form are equal. -/
theorem ofText_injective {s t : String} (h : ofText s = ofText t) :
  s = t
  := by
  have hs := toText?_ofText s
  rw [h, toText?_ofText t] at hs
  cases hs
  rfl

/-! ### Single bytes -/

/-- What holds of the bytes numbered below 256 holds of every byte. -/
theorem forall_byte {P : UInt8 → Prop} (h : ∀ n < 256, P (UInt8.ofNat n)) (x : UInt8) :
  P x
  := by
  have hx := h x.toNat x.toNat_lt
  rwa [UInt8.ofNat_toNat] at hx

/-! ### Words -/

/-- The `n` low bytes of `x`, lowest first. -/
def littleEndian : Nat → Nat → Bytes
  | 0, _ => []
  | n + 1, x => UInt8.ofNat (x % 256) :: littleEndian n (x / 256)

/-- The number whose bytes are `b`, lowest first. -/
def ofLittleEndian : Bytes → Nat
  | [] => 0
  | b :: r => b.toNat + 256 * ofLittleEndian r

/-- The `n` low bytes of `x`, highest first. -/
def bigEndian (n x : Nat) : Bytes := (littleEndian n x).reverse

/-- The number whose bytes are `b`, highest first. -/
def ofBigEndian (b : Bytes) : Nat := ofLittleEndian b.reverse

@[simp]
theorem length_littleEndian (n x : Nat) :
  (littleEndian n x).length = n
  := by
  induction n generalizing x with
  | zero => rfl
  | succ n ih => simp [littleEndian, ih]

@[simp]
theorem length_bigEndian (n x : Nat) :
  (bigEndian n x).length = n
  := by
  simp [bigEndian]

/-- A number below `256 ^ n` is read back from its `n` low bytes. -/
theorem ofLittleEndian_littleEndian {n x : Nat} (h : x < Nat.pow 256 n) :
  ofLittleEndian (littleEndian n x) = x
  := by
  induction n generalizing x with
  | zero => simp at h; simp [littleEndian, ofLittleEndian, h]
  | succ n ih =>
    have hx : x / 256 < Nat.pow 256 n := by
      rw [Nat.div_lt_iff_lt_mul (by decide)]
      exact h
    rw [littleEndian, ofLittleEndian, ih hx]
    simp
    omega

/-! ### Cutting -/

/-- The first `n` bytes and the rest, if there are that many. -/
def split? : Nat → Bytes → Option (Bytes × Bytes)
  | 0, b => some ([], b)
  | _ + 1, [] => none
  | n + 1, x :: r => (split? n r).map fun (front, rest) => (x :: front, rest)

theorem split?_append {a : Bytes} {n : Nat} (h : a.length = n) (b : Bytes) :
  split? n (a ++ b) = some (a, b)
  := by
  subst h
  induction a with
  | nil => rfl
  | cons x a ih => simp [split?, ih]

/-- The consecutive pieces of `n + 1` bytes of `b`, an incomplete last one included. -/
def chunks (n : Nat) (b : Bytes) : List Bytes :=
  match b with
  | [] => []
  | x :: r => (x :: r.take n) :: chunks n (r.drop n)
termination_by b.length
decreasing_by
  rw [List.length_drop, List.length_cons]
  omega

end Bytes

end LedgerTrust
