import LedgerTrust.Json.Scan

/-!
# JSON strings

`Json.literal` writes bytes between quotes: the quote, the backslash and the control characters
are escaped, every other byte stands for itself. `Json.literal?` reads a string with any of the
escapes of JSON; the two halves of a surrogate pair belong together. `Json.text` and
`Json.text?` do so for the UTF-8 form of a text.
-/

namespace LedgerTrust.Json

def quote : UInt8 := 0x22

def backslash : UInt8 := 0x5c

/-- The lower-case hexadecimal digit of a number below sixteen. -/
def lowerHex (n : UInt8) : UInt8 := if n < 10 then 0x30 + n else 0x57 + n

/-- The written form of a byte inside a string. -/
def escapeByte (b : UInt8) : Bytes :=
  if b = 0x22 then [backslash, 0x22]
  else if b = 0x5c then [backslash, 0x5c]
  else if b = 0x08 then [backslash, 0x62]
  else if b = 0x0c then [backslash, 0x66]
  else if b = 0x0a then [backslash, 0x6e]
  else if b = 0x0d then [backslash, 0x72]
  else if b = 0x09 then [backslash, 0x74]
  else if b < 0x20 then
    [backslash, 0x75, 0x30, 0x30, lowerHex (b / 16), lowerHex (b % 16)]
  else [b]

/-- Bytes between quotes. -/
def literal (b : Bytes) : Bytes := quote :: b.flatMap escapeByte ++ [quote]

/-- A text between quotes. -/
def text (s : String) : Bytes := literal (Bytes.ofText s)

/-- The value of a hexadecimal digit. -/
def hexValue? (b : UInt8) : Option Nat :=
  if isDigit b then some (b.toNat - 0x30)
  else if 0x61 ≤ b && b ≤ 0x66 then some (b.toNat - 0x57)
  else if 0x41 ≤ b && b ≤ 0x46 then some (b.toNat - 0x37)
  else none

/-- The number of four hexadecimal digits, and the text after them. -/
def codeUnit? : Bytes → Option (Nat × Bytes)
  | a :: b :: c :: d :: r => do
    let a ← hexValue? a
    let b ← hexValue? b
    let c ← hexValue? c
    let d ← hexValue? d
    return (((a * 16 + b) * 16 + c) * 16 + d, r)
  | _ => none

/-- The low half of a surrogate pair, written as a numbered escape, and the text after it. -/
def lowSurrogate? : Bytes → Option (Nat × Bytes)
  | 0x5c :: 0x75 :: r => do
    let (low, r) ← codeUnit? r
    if 0xdc00 ≤ low ∧ low ≤ 0xdfff then return (low - 0xdc00, r) else none
  | _ => none

/-- The character of a numbered escape, whose digits the text starts with, and the text after
it. -/
def numberedEscape? (t : Bytes) : Option (Char × Bytes) := do
  let (unit, r) ← codeUnit? t
  if 0xdc00 ≤ unit ∧ unit ≤ 0xdfff then none
  else if 0xd800 ≤ unit ∧ unit ≤ 0xdbff then
    let (low, r) ← lowSurrogate? r
    return (Char.ofNat (0x10000 + (unit - 0xd800) * 1024 + low), r)
  else return (Char.ofNat unit, r)

/-- The bytes of an escape whose backslash has been read, and the text after it. -/
def escape? : Bytes → Option (Bytes × Bytes)
  | [] => none
  | b :: r =>
    if b = 0x22 ∨ b = 0x5c ∨ b = 0x2f then some ([b], r)
    else if b = 0x62 then some ([0x08], r)
    else if b = 0x66 then some ([0x0c], r)
    else if b = 0x6e then some ([0x0a], r)
    else if b = 0x72 then some ([0x0d], r)
    else if b = 0x74 then some ([0x09], r)
    else if b = 0x75 then
      (numberedEscape? r).map fun (c, r) => (String.utf8EncodeChar c, r)
    else none

theorem length_codeUnit?_le {t r : Bytes} {n : Nat} (h : codeUnit? t = some (n, r)) :
  r.length ≤ t.length
  := by
  unfold codeUnit? at h
  split at h
  · simp only [bind, Option.bind_eq_some_iff] at h
    obtain ⟨_, _, _, _, _, _, _, _, he⟩ := h
    obtain ⟨-, rfl⟩ := Prod.mk.inj (Option.some.inj he)
    simp only [List.length_cons]
    omega
  · cases h

theorem length_lowSurrogate?_le {t r : Bytes} {n : Nat} (h : lowSurrogate? t = some (n, r)) :
  r.length ≤ t.length
  := by
  unfold lowSurrogate? at h
  split at h
  · simp only [bind, Option.bind_eq_some_iff] at h
    obtain ⟨⟨low, r'⟩, hu, he⟩ := h
    have := length_codeUnit?_le hu
    split at he
    · obtain ⟨-, rfl⟩ := Prod.mk.inj (Option.some.inj he)
      simp only [List.length_cons]
      omega
    · cases he
  · cases h

theorem length_numberedEscape?_le {t r : Bytes} {c : Char}
    (h : numberedEscape? t = some (c, r)) :
  r.length ≤ t.length
  := by
  unfold numberedEscape? at h
  simp only [bind, Option.bind_eq_some_iff] at h
  obtain ⟨⟨u, r'⟩, hu, he⟩ := h
  have h₁ := length_codeUnit?_le hu
  split at he
  · cases he
  · split at he
    · simp only [Option.bind_eq_some_iff] at he
      obtain ⟨⟨low, r''⟩, hl, he⟩ := he
      have h₂ := length_lowSurrogate?_le hl
      obtain ⟨-, rfl⟩ := Prod.mk.inj (Option.some.inj he)
      exact Nat.le_trans h₂ h₁
    · obtain ⟨-, rfl⟩ := Prod.mk.inj (Option.some.inj he)
      exact h₁

theorem length_escape?_lt {t b r : Bytes} (h : escape? t = some (b, r)) :
  r.length < t.length
  := by
  unfold escape? at h
  repeat' split at h
  case h_2.isFalse.isFalse.isFalse.isFalse.isFalse.isFalse.isTrue =>
    obtain ⟨⟨c, r'⟩, hc, he⟩ := Option.map_eq_some_iff.1 h
    cases he
    have := length_numberedEscape?_le hc
    simp
    omega
  all_goals
    cases h
  all_goals simp

/-- The bytes written inside a string up to its closing quote, which ends the text. -/
def unescape? (t : Bytes) : Option Bytes :=
  match t with
  | [] => none
  | b :: r =>
    if b = quote then (if r.isEmpty then some [] else none)
    else if b = backslash then
      match _h : escape? r with
      | some (front, rest) => (unescape? rest).map (front ++ ·)
      | none => none
    else if b < 0x20 then none
    else (unescape? r).map (b :: ·)
termination_by t.length
decreasing_by
  · have := length_escape?_lt _h
    simp
    omega
  · simp

/-- The bytes that a string stands for. -/
def literal? : Bytes → Option Bytes
  | 0x22 :: r => unescape? r
  | _ => none

/-- The text that a string stands for. -/
def text? (t : Bytes) : Option String := (literal? t).bind Bytes.toText?

end LedgerTrust.Json
