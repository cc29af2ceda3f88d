import Mathlib.Data.List.TakeWhile
import LedgerTrust.Identity.Key
import LedgerTrust.Proofs.Data.Checks
import LedgerTrust.Proofs.Data.Text

/-!
# Texts that are keys

A text spells bytes if it has two digits for each of them, each a capital or not, and nothing
else but blank characters around the digits. `keyBytes` reads the texts that spell something as what
they spell. So a text is a seed if it spells 32 bytes, and a public key if it spells 32 bytes of a
point of the curve.
-/

namespace LedgerTrust

/-! ### Lower case -/

namespace Text

/-- Characters that are no capitals of the Latin alphabet stay. -/
theorem toLower_of_not_capital {c : Char} (h : ¬ ('A'.val ≤ c.val ∧ c.val ≤ 'Z'.val)) :
  c.toLower = c
  := dif_neg h

theorem toList_toLower (t : String) :
  t.toLower.toList = t.toList.map Char.toLower
  := String.toList_map

end Text

/-! ### Digits of either case -/

namespace Hex

/-- The lower-case letter of a capital; every other byte stays. -/
def lowered (c : UInt8) : UInt8 := if 65 ≤ c ∧ c ≤ 90 then c + 32 else c

theorem value?_lowered (c : UInt8) :
  value? (lowered c) = value? c
  := by
  revert c
  apply Bytes.forall_byte
  decide +kernel

theorem lowered_eq_digit (c : UInt8) :
  ∀ n ∈ value? c, n < 16 ∧ lowered c = digit n
  := by
  revert c
  apply Bytes.forall_byte
  decide +kernel

/-- A byte is a digit with a value if it is the digit for it, but for its case. -/
theorem value?_eq_some_iff {c n : UInt8} :
  value? c = some n ↔ n < 16 ∧ lowered c = digit n
  := by
  constructor
  · exact lowered_eq_digit c n
  · rintro ⟨hn, hc⟩
    rw [← value?_lowered, hc, value?_digit hn]

theorem digitAt_eq_ok_iff {c n : UInt8} {position : Nat} :
  digitAt c position = .ok n ↔ n < 16 ∧ lowered c = digit n
  := by
  rw [← value?_eq_some_iff, digitAt]
  cases value? c with
  | none => simp
  | some v => simp

/-- A byte is determined by its two digits. -/
theorem halves_of_digits {high low : UInt8} (hhigh : high < 16) (hlow : low < 16) :
  (high * 16 + low) / 16 = high ∧ (high * 16 + low) % 16 = low
  := by
  have hbase : (16 : UInt8).toNat = 16 := rfl
  simp only [UInt8.lt_iff_toNat_lt, hbase] at hhigh hlow
  simp only [← UInt8.toNat_inj, UInt8.toNat_add, UInt8.toNat_mul, UInt8.toNat_div,
    UInt8.toNat_mod, hbase]
  omega

theorem decodePairs_eq_ok_iff {position : Nat} {t b : Bytes} :
  decodePairs position t = .ok b ↔ t.map lowered = encode b
  := by
  induction position, t using decodePairs.induct generalizing b with
  | case1 position =>
    cases b with
    | nil => simp [decodePairs, encode]
    | cons x r => simp [decodePairs, encode]
  | case2 position c =>
    cases b with
    | nil => simp [decodePairs, encode]
    | cons x r => simp [decodePairs, encode]
  | case3 position c d r ih =>
    simp only [decodePairs, bind_eq_ok_iff, digitAt_eq_ok_iff, ih]
    cases b with
    | nil => simp [encode, pure, Except.pure]
    | cons x rest =>
      have hencode : encode (x :: rest) = digit (x / 16) :: digit (x % 16) :: encode rest := rfl
      rw [hencode, List.map_cons, List.map_cons, List.cons.injEq, List.cons.injEq]
      constructor
      · rintro ⟨high, ⟨hhigh, hc⟩, low, ⟨hlow, hd⟩, _, hrest, ⟨⟩⟩
        obtain ⟨hx, hx'⟩ := halves_of_digits hhigh hlow
        rw [hx, hx']
        exact ⟨hc, hd, hrest⟩
      · rintro ⟨hc, hd, hrest⟩
        obtain ⟨hhigh, hlow, hx⟩ := digits_of_byte x
        refine ⟨x / 16, ⟨hhigh, hc⟩, x % 16, ⟨hlow, hd⟩, rest, hrest, ?_⟩
        rw [hx]
        rfl

/-- What is read is what was written, but for the case of the digits. -/
theorem decode_eq_ok_iff {t b : Bytes} :
  decode t = .ok b ↔ t.map lowered = encode b
  := by
  unfold decode
  split
  · next hodd =>
    have hlength : t.map lowered ≠ encode b := by
      intro h
      have := congrArg List.length h
      rw [List.length_map, length_encode] at this
      omega
    simp [hlength]
  · exact decodePairs_eq_ok_iff

/-- The digits of a byte string are those of its text. -/
theorem ofText_text (b : Bytes) :
  Bytes.ofText (text b) = encode b
  := by
  have hascii : ∀ digits : Bytes, Bytes.IsAscii digits →
      Bytes.ofText (String.ofList (digits.map fun c => Char.ofNat c.toNat)) = digits := by
    intro digits h
    induction digits with
    | nil => exact Bytes.ofText_ofList_nil
    | cons c r ih =>
      rw [List.map_cons, Bytes.ofText_ofList_cons,
        Bytes.utf8EncodeChar_ofNat (h c List.mem_cons_self),
        ih fun d hd => h d (List.mem_cons_of_mem c hd)]
      rfl
  exact hascii _ (Bytes.isAscii_hexEncode b)

theorem lowered_of_not_lt {c : UInt8} (h : ¬ c.toNat < 128) :
  lowered c = c
  := by
  have hcapital : ¬ (65 ≤ c ∧ c ≤ 90) := by
    simp only [UInt8.le_iff_toNat_le, UInt8.reduceToNat]
    omega
  rw [lowered, if_neg hcapital]

/-- Letters are put in lower case in a text as they are in its UTF-8 form. -/
theorem utf8EncodeChar_toLower (c : Char) :
  String.utf8EncodeChar c.toLower = (String.utf8EncodeChar c).map lowered
  := by
  by_cases hc : c.val.toNat < 128
  · have hall : ∀ n < 128, String.utf8EncodeChar (Char.ofNat n).toLower
        = (String.utf8EncodeChar (Char.ofNat n)).map lowered := by
      decide +kernel
    have h := hall c.val.toNat hc
    rwa [show Char.ofNat c.val.toNat = c from Char.ofNat_toNat c] at h
  · have hcapital : ¬ ('A'.val ≤ c.val ∧ c.val ≤ 'Z'.val) := by
      intro h
      have hle := UInt32.le_iff_toNat_le.1 h.2
      have hz : 'Z'.val.toNat = 90 := rfl
      omega
    have hbytes : ∀ x ∈ String.utf8EncodeChar c, lowered x = x := fun x hx =>
      lowered_of_not_lt (Bytes.le_of_mem_utf8EncodeChar hc x hx)
    rw [Text.toLower_of_not_capital hcapital, List.map_congr_left hbytes, List.map_id']

theorem ofText_map_toLower (l : List Char) :
  Bytes.ofText (String.ofList (l.map Char.toLower))
    = (Bytes.ofText (String.ofList l)).map lowered
  := by
  induction l with
  | nil => rw [List.map_nil, Bytes.ofText_ofList_nil, List.map_nil]
  | cons c l ih =>
    rw [List.map_cons, Bytes.ofText_ofList_cons, Bytes.ofText_ofList_cons, List.map_append, ih,
      utf8EncodeChar_toLower]

theorem ofText_toLower (t : String) :
  Bytes.ofText t.toLower = (Bytes.ofText t).map lowered
  := by
  have h := ofText_map_toLower t.toList
  rwa [← Text.toList_toLower, String.ofList_toList, String.ofList_toList] at h

/-- A text is read if it is the text of some bytes, but for the case of its digits. -/
theorem decode_ofText_eq_ok_iff {t : String} {b : Bytes} :
  decode (Bytes.ofText t) = .ok b ↔ t.toLower = text b
  := by
  rw [decode_eq_ok_iff, ← ofText_toLower, ← ofText_text]
  constructor
  · exact Bytes.ofText_injective
  · exact congrArg Bytes.ofText

end Hex

/-! ### Blank characters around a text -/

namespace Text

/-- All characters of a text are blank. -/
def IsBlank (t : String) : Prop := ∀ c ∈ t.toList, isBlank c = true

/-- What is trimmed off a text is blank. -/
theorem exists_eq_append_trim (t : String) :
  ∃ front back, t = front ++ trim t ++ back ∧ IsBlank front ∧ IsBlank back
  := by
  let rest := t.toList.dropWhile isBlank
  use String.ofList (t.toList.takeWhile isBlank),
    String.ofList (rest.reverse.takeWhile isBlank).reverse
  constructor
  · rw [← String.toList_inj, trim, String.toList_append, String.toList_append,
      String.toList_ofList, String.toList_ofList, String.toList_ofList, List.append_assoc,
      ← List.reverse_append, List.takeWhile_append_dropWhile, List.reverse_reverse,
      List.takeWhile_append_dropWhile]
  constructor
  · intro c hc
    rw [String.toList_ofList] at hc
    exact List.mem_takeWhile_imp hc
  · intro c hc
    rw [String.toList_ofList, List.mem_reverse] at hc
    exact List.mem_takeWhile_imp hc

theorem dropWhile_append {blanks l : List Char} (hblank : ∀ c ∈ blanks, isBlank c = true)
    (h : ∀ c ∈ l, isBlank c = false) :
  (blanks ++ l).dropWhile isBlank = l
  := by
  rw [List.dropWhile_append_of_pos hblank]
  cases l with
  | nil => rfl
  | cons c r => rw [List.dropWhile_cons, h c List.mem_cons_self, if_neg Bool.false_ne_true]

/-- Blank characters around a text that has none are trimmed off. -/
theorem trim_append {front t back : String} (hfront : IsBlank front) (hback : IsBlank back)
    (h : ∀ c ∈ t.toList, isBlank c = false) :
  trim (front ++ t ++ back) = t
  := by
  rw [trim, String.toList_append, String.toList_append, List.dropWhile_append,
    dropWhile_append hfront h, ← String.toList_inj, String.toList_ofList]
  split
  · next hempty =>
    have ht := List.isEmpty_iff.1 hempty
    rw [List.dropWhile_eq_nil_iff.2 hback, ht]
    rfl
  · have hback' : ∀ c ∈ back.toList.reverse, isBlank c = true := fun c hc =>
      hback c (List.mem_reverse.1 hc)
    have h' : ∀ c ∈ t.toList.reverse, isBlank c = false := fun c hc =>
      h c (List.mem_reverse.1 hc)
    rw [List.reverse_append, dropWhile_append hback' h', List.reverse_reverse]

theorem isBlank_toLower {c : Char} (h : isBlank c = true) :
  isBlank c.toLower = true
  := by
  have hcapital : ¬ ('A'.val ≤ c.val ∧ c.val ≤ 'Z'.val) := by
    rintro ⟨ha, hz⟩
    have hle : 65 ≤ c.toNat := UInt32.le_iff_toNat_le.1 ha
    have hge : c.toNat ≤ 90 := UInt32.le_iff_toNat_le.1 hz
    simp only [isBlank, Bool.or_eq_true, Bool.and_eq_true, decide_eq_true_eq, beq_iff_eq] at h
    omega
  rwa [toLower_of_not_capital hcapital]

end Text

namespace Hex

theorem isBlank_of_mem_text {b : Bytes} :
  ∀ c ∈ (text b).toList, Text.isBlank c = false
  := by
  have hdigit : ∀ n : UInt8, n < 16 → Text.isBlank (Char.ofNat (digit n).toNat) = false := by
    apply Bytes.forall_byte
    decide +kernel
  intro c hc
  obtain ⟨n, hn, rfl⟩ := exists_digit_of_mem_text hc
  exact hdigit n hn

/-- There is no blank character among digits of either case. -/
theorem isBlank_of_toLower {t : String} {b : Bytes} (h : t.toLower = text b) :
  ∀ c ∈ t.toList, Text.isBlank c = false
  := by
  intro c hc
  have hlower : c.toLower ∈ (text b).toList := by
    rw [← h, Text.toList_toLower]
    exact List.mem_map_of_mem hc
  rw [← Bool.not_eq_true]
  intro hblank
  have hdigit := isBlank_of_mem_text _ hlower
  rw [Text.isBlank_toLower hblank] at hdigit
  cases hdigit

end Hex

/-! ### Keys -/

/-- A text of two digits of either case for each byte, with blank characters around the digits. -/
def Spells (text : String) (b : Bytes) : Prop :=
  ∃ front digits back, text = front ++ digits ++ back
    ∧ Text.IsBlank front ∧ Text.IsBlank back ∧ digits.toLower = Hex.text b

/-- A text is read as the bytes that it spells. -/
theorem keyBytes_eq_ok_iff {text : String} {b : Bytes} :
  keyBytes text = .ok b ↔ Spells text b
  := by
  rw [keyBytes, mapError_eq_ok_iff, Hex.decode_ofText_eq_ok_iff]
  constructor
  · intro h
    obtain ⟨front, back, htext, hfront, hback⟩ := Text.exists_eq_append_trim text
    exact ⟨front, Text.trim text, back, htext, hfront, hback, h⟩
  · rintro ⟨front, digits, back, rfl, hfront, hback, h⟩
    rw [Text.trim_append hfront hback (Hex.isBlank_of_toLower h), h]

/-- The texts that are seeds: those that spell 32 bytes, and these bytes are the seed. -/
theorem parseSeed_eq_ok_iff {text : String} {seed : Bytes} :
  parseSeed text = .ok seed ↔ Spells text seed ∧ seed.length = 32
  := by
  simp only [parseSeed, bind_eq_ok_iff, keyBytes_eq_ok_iff]
  constructor
  · rintro ⟨b, hb, h⟩
    split at h
    · cases h
    · next hlength =>
      cases h
      exact ⟨hb, Decidable.not_not.1 hlength⟩
  · rintro ⟨hseed, hlength⟩
    use seed, hseed
    rw [if_neg (not_not_intro hlength)]

/-- The texts that are public keys: those that spell 32 bytes of a point of the curve, and these
bytes are the key. -/
theorem PublicKey.parse_eq_ok_iff {text : String} {key : PublicKey} :
  PublicKey.parse text = .ok key
    ↔ Spells text key.bytes ∧ key.bytes.length = 32
      ∧ ∃ point, Ed25519.Point.decompress? key.bytes = some point
  := by
  simp only [PublicKey.parse, bind_eq_ok_iff, keyBytes_eq_ok_iff]
  constructor
  · rintro ⟨b, hb, h⟩
    split at h
    · cases h
    next hlength =>
    split at h
    · cases h
    next hpoint =>
      cases h
      exact ⟨hb, Decidable.not_not.1 hlength,
        Option.ne_none_iff_exists'.1 fun hnone => hpoint (Option.isNone_iff_eq_none.2 hnone)⟩
  · rintro ⟨hkey, hlength, point, hpoint⟩
    use key.bytes, hkey
    rw [if_neg (not_not_intro hlength), hpoint]
    rfl

end LedgerTrust
