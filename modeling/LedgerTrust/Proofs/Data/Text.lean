import Mathlib.Tactic.Use
import LedgerTrust.Data.Hex

/-!
# Byte strings that are texts

`Bytes.IsText` holds of the UTF-8 forms of texts. The byte strings that are texts are closed under
concatenation, and every string of bytes below 128 is one; a map that turns bytes below 128 into
texts and keeps all others turns texts into texts.
-/

namespace LedgerTrust

namespace Bytes

/-- The byte string is the UTF-8 form of a text. -/
def IsText (b : Bytes) : Prop := ∃ s, b = ofText s

/-- The bytes are all below 128. -/
def IsAscii (b : Bytes) : Prop := ∀ x ∈ b, x.toNat < 128

/-! ### The UTF-8 form of a character -/

theorem utf8EncodeChar_of_lt {c : Char} (h : c.val.toNat < 128) :
  String.utf8EncodeChar c = [UInt8.ofNat c.val.toNat]
  := by
  rw [String.utf8EncodeChar, if_pos (Nat.le_of_lt_succ h)]

/-- No byte of a character from 128 on is below 128. -/
theorem le_of_mem_utf8EncodeChar {c : Char} (h : ¬ c.val.toNat < 128) :
  ∀ x ∈ String.utf8EncodeChar c, ¬ x.toNat < 128
  := by
  have hmod : ∀ n, n % 256 < 128 ↔ (UInt8.ofNat n).toNat < 128 := by simp
  unfold String.utf8EncodeChar
  rw [if_neg (by omega)]
  split
  · simp only [List.mem_cons, List.not_mem_nil, or_false, forall_eq_or_imp, forall_eq, ← hmod]
    omega
  · split
    · simp only [List.mem_cons, List.not_mem_nil, or_false, forall_eq_or_imp, forall_eq, ← hmod]
      omega
    · simp only [List.mem_cons, List.not_mem_nil, or_false, forall_eq_or_imp, forall_eq, ← hmod]
      omega

theorem utf8EncodeChar_ofNat {x : UInt8} (h : x.toNat < 128) :
  String.utf8EncodeChar (Char.ofNat x.toNat) = [x]
  := by
  have hall : ∀ n < 256, (UInt8.ofNat n).toNat < 128 →
      String.utf8EncodeChar (Char.ofNat (UInt8.ofNat n).toNat) = [UInt8.ofNat n] := by
    decide +kernel
  exact forall_byte (P := fun x => x.toNat < 128 →
    String.utf8EncodeChar (Char.ofNat x.toNat) = [x]) hall x h

theorem flatMap_eq_self {f : UInt8 → Bytes} {b : Bytes} (h : ∀ x ∈ b, f x = [x]) :
  b.flatMap f = b
  := by
  induction b with
  | nil => rfl
  | cons x r ih =>
    rw [List.flatMap_cons, h x List.mem_cons_self, ih fun y hy => h y (List.mem_cons_of_mem x hy)]
    rfl

/-! ### Texts piece by piece -/

theorem ofText_append (s t : String) :
  ofText (s ++ t) = ofText s ++ ofText t
  := by
  simp [ofText, String.toByteArray_append, ByteArray.data_append]

theorem ofText_ofList_cons (c : Char) (l : List Char) :
  ofText (String.ofList (c :: l)) = String.utf8EncodeChar c ++ ofText (String.ofList l)
  := by
  simp [ofText, List.utf8Encode]

theorem ofText_ofList_nil :
  ofText (String.ofList []) = []
  := by
  simp [ofText]

/-- A byte below 128 in the form of a text is the form of one of its characters. -/
theorem exists_char_of_mem_ofText {x : UInt8} (hx : x.toNat < 128) {s : String}
    (h : x ∈ ofText s) :
  ∃ c ∈ s.toList, c.val.toNat = x.toNat
  := by
  obtain ⟨l, rfl⟩ : ∃ l, s = String.ofList l := ⟨s.toList, String.ofList_toList.symm⟩
  rw [String.toList_ofList]
  induction l with
  | nil =>
    rw [ofText_ofList_nil] at h
    cases h
  | cons c l ih =>
    rw [ofText_ofList_cons, List.mem_append] at h
    rcases h with h | h
    · have hc : c.val.toNat < 128 := by
        apply Decidable.byContradiction
        intro hc
        exact le_of_mem_utf8EncodeChar hc x h hx
      rw [utf8EncodeChar_of_lt hc] at h
      obtain rfl := List.mem_singleton.1 h
      use c, List.mem_cons_self
      rw [UInt8.toNat_ofNat_of_lt' (Nat.lt_trans hc (by decide))]
    · obtain ⟨d, hd, hx⟩ := ih h
      use d, List.mem_cons_of_mem c hd

namespace IsText

theorem ofText (s : String) :
  IsText (ofText s)
  := ⟨s, rfl⟩

theorem nil :
  IsText []
  := ⟨_, ofText_ofList_nil.symm⟩

theorem append {a b : Bytes} (ha : IsText a) (hb : IsText b) :
  IsText (a ++ b)
  := by
  obtain ⟨s, rfl⟩ := ha
  obtain ⟨t, rfl⟩ := hb
  use s ++ t
  exact (ofText_append s t).symm

theorem utf8EncodeChar (c : Char) :
  IsText (String.utf8EncodeChar c)
  := by
  use String.ofList [c]
  rw [ofText_ofList_cons, ofText_ofList_nil, List.append_nil]

theorem of_isAscii {b : Bytes} (h : IsAscii b) :
  IsText b
  := by
  induction b with
  | nil => exact nil
  | cons x r ih =>
    have hx := utf8EncodeChar_ofNat (h x List.mem_cons_self)
    have hr : IsText r := ih fun y hy => h y (List.mem_cons_of_mem x hy)
    rw [← List.singleton_append, ← hx]
    exact (utf8EncodeChar _).append hr

/-- A map that keeps the bytes from 128 on turns the bytes of a character into a text. -/
theorem flatMap_utf8EncodeChar {f : UInt8 → Bytes} (hlow : ∀ x, x.toNat < 128 → IsText (f x))
    (hhigh : ∀ x, ¬ x.toNat < 128 → f x = [x]) (c : Char) :
  IsText ((String.utf8EncodeChar c).flatMap f)
  := by
  by_cases hc : c.val.toNat < 128
  · rw [utf8EncodeChar_of_lt hc, List.flatMap_singleton]
    apply hlow
    rwa [UInt8.toNat_ofNat_of_lt' (Nat.lt_trans hc (by decide))]
  · rw [flatMap_eq_self fun x hx => hhigh x (le_of_mem_utf8EncodeChar hc x hx)]
    exact utf8EncodeChar c

theorem flatMap {f : UInt8 → Bytes} (hlow : ∀ x, x.toNat < 128 → IsText (f x))
    (hhigh : ∀ x, ¬ x.toNat < 128 → f x = [x]) {b : Bytes} (h : IsText b) :
  IsText (b.flatMap f)
  := by
  obtain ⟨s, rfl⟩ := h
  obtain ⟨l, rfl⟩ : ∃ l, s = String.ofList l := ⟨s.toList, String.ofList_toList.symm⟩
  induction l with
  | nil =>
    rw [ofText_ofList_nil]
    exact nil
  | cons c l ih =>
    rw [ofText_ofList_cons, List.flatMap_append]
    exact (flatMap_utf8EncodeChar hlow hhigh c).append ih

/-- The bytes of a text are read as this text. -/
theorem isSome_toText? {b : Bytes} (h : IsText b) :
  (toText? b).isSome = true
  := by
  obtain ⟨s, rfl⟩ := h
  rw [toText?_ofText]
  rfl

end IsText

/-! ### Hexadecimal digits -/

theorem isAscii_hexEncode (b : Bytes) :
  IsAscii (Hex.encode b)
  := by
  have hdigit : ∀ n : UInt8, n < 16 → (Hex.digit n).toNat < 128 := by
    apply forall_byte
    decide +kernel
  intro c hc
  obtain ⟨n, hn, rfl⟩ := Hex.exists_digit_of_mem_encode hc
  exact hdigit n hn

end Bytes

end LedgerTrust
