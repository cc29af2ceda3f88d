import LedgerTrust.Data.Base64
import LedgerTrust.Proofs.Data.Text

/-!
# Base64 symbols are read back

What `Base64.encode` writes is a text that `Base64.decode?` reads as the bytes it was made from.
A group of three bytes is cut into four numbers below 64, and these determine the bytes.
-/

namespace LedgerTrust.Base64

/-! ### Symbols -/

/-- A symbol is read back; it is an ASCII character, and never the padding. -/
theorem symbol_spec {n : UInt8} (h : n < 64) :
  value? (symbol n) = some n ∧ symbol n ≠ padding ∧ (symbol n).toNat < 128
  := by
  revert h
  revert n
  apply Bytes.forall_byte
  decide +kernel

theorem value?_symbol {n : UInt8} (h : n < 64) :
  value? (symbol n) = some n
  := (symbol_spec h).1

theorem symbol_ne_padding {n : UInt8} (h : n < 64) :
  symbol n ≠ padding
  := (symbol_spec h).2.1

theorem symbol_lt {n : UInt8} (h : n < 64) :
  (symbol n).toNat < 128
  := (symbol_spec h).2.2

/-! ### The numbers of a group -/

section Parts

variable (a b c : UInt8)

theorem first_lt :
  a / 4 < 64
  := by
  rw [UInt8.lt_iff_toNat_lt]
  have := a.toNat_lt
  simp
  omega

theorem second_lt :
  a % 4 * 16 + b / 16 < 64
  := by
  rw [UInt8.lt_iff_toNat_lt]
  have := b.toNat_lt
  simp
  omega

theorem third_lt :
  b % 16 * 4 + c / 64 < 64
  := by
  rw [UInt8.lt_iff_toNat_lt]
  have := c.toNat_lt
  simp
  omega

theorem fourth_lt :
  c % 64 < 64
  := by
  rw [UInt8.lt_iff_toNat_lt]
  simp
  omega

theorem first_byte :
  a / 4 * 4 + (a % 4 * 16 + b / 16) / 16 = a
  := by
  apply UInt8.toNat_inj.1
  have := a.toNat_lt
  have := b.toNat_lt
  simp
  omega

theorem second_byte :
  (a % 4 * 16 + b / 16) % 16 * 16 + (b % 16 * 4 + c / 64) / 4 = b
  := by
  apply UInt8.toNat_inj.1
  have := b.toNat_lt
  have := c.toNat_lt
  simp
  omega

theorem third_byte :
  (b % 16 * 4 + c / 64) % 4 * 64 + c % 64 = c
  := by
  apply UInt8.toNat_inj.1
  have := c.toNat_lt
  simp
  omega

end Parts

/-! ### Groups -/

theorem three?_symbols (a b c : UInt8) :
  three? (symbol (a / 4)) (symbol (a % 4 * 16 + b / 16)) (symbol (b % 16 * 4 + c / 64))
      (symbol (c % 64))
    = some [a, b, c]
  := by
  simp only [three?, value?_symbol (first_lt a), value?_symbol (second_lt a b),
    value?_symbol (third_lt b c), value?_symbol (fourth_lt c)]
  simp only [bind, Option.bind, pure, first_byte, second_byte, third_byte]

/-- A last group of two bytes is a group of three without its last symbol. -/
theorem lastTwo?_symbols (a b : UInt8) :
  lastTwo? (symbol (a / 4)) (symbol (a % 4 * 16 + b / 16)) (symbol (b % 16 * 4)) = some [a, b]
  := by
  have hzero : b % 16 * 4 = b % 16 * 4 + 0 / 64 := by simp
  have hrest : (b % 16 * 4) % 4 = 0 := by
    apply UInt8.toNat_inj.1
    simp
  have hb : (a % 4 * 16 + b / 16) % 16 * 16 + b % 16 * 4 / 4 = b := by
    have := second_byte a b 0
    rwa [← hzero] at this
  have hlt : b % 16 * 4 < 64 := by
    have := third_lt b 0
    rwa [← hzero] at this
  simp only [lastTwo?, value?_symbol (first_lt a), value?_symbol (second_lt a b),
    value?_symbol hlt]
  simp only [bind, Option.bind, pure, first_byte, hrest, hb, if_true]

/-- A last group of one byte is a group of three without its last two symbols. -/
theorem lastOne?_symbols (a : UInt8) :
  lastOne? (symbol (a / 4)) (symbol (a % 4 * 16)) = some [a]
  := by
  have hzero : a % 4 * 16 = a % 4 * 16 + 0 / 16 := by simp
  have hrest : (a % 4 * 16) % 16 = 0 := by
    apply UInt8.toNat_inj.1
    simp
  have ha : a / 4 * 4 + a % 4 * 16 / 16 = a := by
    have := first_byte a 0
    rwa [← hzero] at this
  have hlt : a % 4 * 16 < 64 := by
    have := second_lt a 0
    rwa [← hzero] at this
  simp only [lastOne?, value?_symbol (first_lt a), value?_symbol hlt]
  simp only [bind, Option.bind, pure, hrest, ha, if_true]

/-! ### Byte strings -/

theorem decode?_four (p q r s : UInt8) :
  decode? [p, q, r, s] = last? [p, q, r, s]
  := rfl

/-- The bytes whose symbols are given are read back. -/
theorem decode?_encode (b : Bytes) :
  decode? (encode b) = some b
  := by
  induction b using encode.induct with
  | case1 => rfl
  | case2 a =>
    rw [encode, decode?_four, last?, if_pos rfl, if_pos rfl]
    exact lastOne?_symbols a
  | case3 a b =>
    have hne : symbol (b % 16 * 4) ≠ padding := by
      apply symbol_ne_padding
      have := third_lt b 0
      simpa using this
    rw [encode, decode?_four, last?, if_pos rfl, if_neg hne]
    exact lastTwo?_symbols a b
  | case4 a b c r ih =>
    have hne : symbol (c % 64) ≠ padding := symbol_ne_padding (fourth_lt c)
    rw [encode]
    cases he : encode r with
    | nil =>
      rw [he] at ih
      cases ih
      rw [decode?_four, last?, if_neg hne]
      exact three?_symbols a b c
    | cons t rest =>
      rw [he] at ih
      rw [decode?, three?_symbols, ih]
      rfl

theorem isAscii_encode (b : Bytes) :
  Bytes.IsAscii (encode b)
  := by
  have hpadding : padding.toNat < 128 := by decide
  induction b using encode.induct with
  | case1 => nofun
  | case2 a =>
    have h₂ := second_lt a 0
    simp only [UInt8.zero_div, UInt8.add_zero] at h₂
    simp only [encode, Bytes.IsAscii, List.mem_cons, List.not_mem_nil, or_false,
      forall_eq_or_imp, forall_eq]
    exact ⟨symbol_lt (first_lt a), symbol_lt h₂, hpadding, hpadding⟩
  | case3 a b =>
    have h₃ := third_lt b 0
    simp only [UInt8.zero_div, UInt8.add_zero] at h₃
    simp only [encode, Bytes.IsAscii, List.mem_cons, List.not_mem_nil, or_false,
      forall_eq_or_imp, forall_eq]
    exact ⟨symbol_lt (first_lt a), symbol_lt (second_lt a b), symbol_lt h₃, hpadding⟩
  | case4 a b c r ih =>
    simp only [encode, Bytes.IsAscii, List.mem_cons, forall_eq_or_imp]
    exact ⟨symbol_lt (first_lt a), symbol_lt (second_lt a b), symbol_lt (third_lt b c),
      symbol_lt (fourth_lt c), ih⟩

end LedgerTrust.Base64
