import LedgerTrust.Json.Text
import LedgerTrust.Proofs.Data.Text
import LedgerTrust.Proofs.Json.Extent

/-!
# Strings

The text of a string is delimited, and what the scanner passes over between two quotes may stand in
a string. `Json.literal` writes the text of a string, whatever its bytes, and `Json.literal?` reads
it as these bytes; if they are a text, so is the string. For the written strings everything follows
from what is written for one byte.
-/

namespace LedgerTrust.Json

/-! ### Escapes -/

theorem lowerHex_digits (b : UInt8) :
  isHexDigit (lowerHex (b / 16)) = true ∧ isHexDigit (lowerHex (b % 16)) = true
    ∧ hexValue? (lowerHex (b / 16)) = some (b / 16).toNat
    ∧ hexValue? (lowerHex (b % 16)) = some (b % 16).toNat
  := by
  revert b
  apply Bytes.forall_byte
  decide +kernel

theorem toNat_lt_of_isHexDigit {b : UInt8} (h : isHexDigit b = true) :
  b.toNat < 128
  := by
  simp only [isHexDigit, isDigit, Bool.or_eq_true, Bool.and_eq_true, decide_eq_true_eq,
    UInt8.le_iff_toNat_le] at h
  have hnine : (0x39 : UInt8).toNat = 57 := rfl
  have hlower : (0x66 : UInt8).toNat = 102 := rfl
  have hupper : (0x46 : UInt8).toNat = 70 := rfl
  omega

theorem lowerHex_lt (b : UInt8) :
  (lowerHex (b / 16)).toNat < 128 ∧ (lowerHex (b % 16)).toNat < 128
  := by
  obtain ⟨hhigh, hlow, -⟩ := lowerHex_digits b
  exact ⟨toNat_lt_of_isHexDigit hhigh, toNat_lt_of_isHexDigit hlow⟩

/-- The number whose digits are those of a byte is that of the byte. -/
theorem codeUnit?_escape (b : UInt8) (r : Bytes) :
  codeUnit? (0x30 :: 0x30 :: lowerHex (b / 16) :: lowerHex (b % 16) :: r) = some (b.toNat, r)
  := by
  obtain ⟨-, -, hhigh, hlow⟩ := lowerHex_digits b
  have hzero : hexValue? 0x30 = some 0 := rfl
  have hb : b.toNat / 16 * 16 + b.toNat % 16 = b.toNat := by omega
  simp [codeUnit?, hzero, hhigh, hlow, hb]

/-- The number of a byte below 128 is no half of a surrogate pair. -/
theorem numberedEscape?_escape {b : UInt8} (hb : b.toNat < 128) (r : Bytes) :
  numberedEscape? (0x30 :: 0x30 :: lowerHex (b / 16) :: lowerHex (b % 16) :: r)
    = some (Char.ofNat b.toNat, r)
  := by
  have hlow : ¬ (0xdc00 ≤ b.toNat ∧ b.toNat ≤ 0xdfff) := by omega
  have hhigh : ¬ (0xd800 ≤ b.toNat ∧ b.toNat ≤ 0xdbff) := by omega
  simp only [numberedEscape?, codeUnit?_escape, bind, Option.bind, if_neg hlow, if_neg hhigh]
  rfl

/-! ### The text of a string -/

/-- What is written for a byte may stand between quotes. -/
theorem StringBody.escapeByte_append (b : UInt8) {t : Bytes} (h : StringBody t) :
  StringBody (escapeByte b ++ t)
  := by
  unfold escapeByte
  iterate 7
    split
    · exact .escape rfl h
  split
  · obtain ⟨hhigh, hlow, -⟩ := lowerHex_digits b
    have hzero : isHexDigit 0x30 = true := rfl
    have hdigits : [0x30, 0x30, lowerHex (b / 16), lowerHex (b % 16)].all isHexDigit = true := by
      simp [hzero, hhigh, hlow]
    exact .numbered rfl hdigits h
  · next hquote hbackslash _ _ _ _ _ hlow => exact .plain hquote hbackslash hlow h

theorem isString_literal (b : Bytes) :
  IsString (literal b)
  := by
  apply IsString.quoted
  induction b with
  | nil => exact .nil
  | cons x b ih => exact ih.escapeByte_append x

/-! ### The scanner passes over strings -/

section

variable (stack : List Bracket) (isKey : Bool) (rest : Bytes)

/-- The digits of a numbered escape. -/
theorem scan_hexDigits {ds : Bytes} {n : Nat} (hlength : ds.length = n + 1)
    (hds : ds.all isHexDigit = true) :
  scan stack (.numbered isKey n) (ds ++ rest) = scan stack (.string isKey) rest
  := by
  induction ds generalizing n with
  | nil => cases hlength
  | cons d ds ih =>
    rw [List.all_cons, Bool.and_eq_true] at hds
    have hlength := Nat.succ.inj hlength
    cases n with
    | zero =>
      obtain rfl := List.length_eq_zero_iff.1 hlength
      apply scan_next
      rw [step, if_pos hds.1]
    | succ n =>
      have hstep : step stack (.numbered isKey (n + 1)) d = .next stack (.numbered isKey n) := by
        rw [step, if_pos hds.1]
      rw [List.cons_append, scan_next hstep, ih hlength hds.2]

/-- A byte that is neither a quote nor a backslash. -/
theorem step_string {b : UInt8} (hquote : b ≠ quote) (hbackslash : b ≠ backslash) :
  step stack (.string isKey) b = if b < 0x20 then .fail else .next stack (.string isKey)
  := by
  have hquote : b ≠ 0x22 := hquote
  have hbackslash : b ≠ 0x5c := hbackslash
  rw [step, if_neg hquote, if_neg hbackslash]

/-- The scanner stays in the string up to the closing quote. -/
theorem StringBody.scan_append {t : Bytes} (h : StringBody t) :
  scan stack (.string isKey) (t ++ rest) = scan stack (.string isKey) rest
  := by
  have hescape : step stack (.string isKey) backslash = .next stack (.escape isKey) := rfl
  induction h with
  | nil => rfl
  | @plain b t hquote hbackslash hcontrol _ ih =>
    have hstep : step stack (.string isKey) b = .next stack (.string isKey) := by
      rw [step_string stack isKey hquote hbackslash, if_neg hcontrol]
    rw [List.cons_append, scan_next hstep, ih]
  | @escape b t hb _ ih =>
    have hstep : step stack (.escape isKey) b = .next stack (.string isKey) := by
      rw [step, if_pos hb]
    rw [List.cons_append, List.cons_append, scan_next hescape, scan_next hstep, ih]
  | numbered hlength hds _ ih =>
    have hstep : step stack (.escape isKey) 0x75 = .next stack (.numbered isKey 3) := rfl
    rw [List.cons_append, List.cons_append, List.append_assoc, scan_next hescape,
      scan_next hstep, scan_hexDigits stack isKey _ hlength hds, ih]

/-- The closing quote of a key, and that of a value. -/
theorem scan_quote :
  scan stack (.string true) (quote :: rest) = scan stack .colon rest
    ∧ scan stack (.string false) (quote :: rest) = finish stack rest
  := ⟨scan_next rfl rest, scan_ended rfl rest⟩

end

/-- The text of a string is delimited. -/
theorem IsString.delimited {t : Bytes} (h : IsString t) :
  Delimited t
  := by
  cases h with
  | quoted h =>
    constructor
    · exact ⟨quote, _, rfl, rfl⟩
    · intro stack rest _
      have hopen : step stack .value quote = .next stack (.string false) := rfl
      rw [List.cons_append, List.cons_append, scan_next hopen, List.append_assoc, h.scan_append,
        List.singleton_append, (scan_quote stack rest).2]

/-- A key in an object is a string. -/
theorem IsString.scan_key {t : Bytes} (h : IsString t) (stack : List Bracket) (rest : Bytes) :
  scan stack .key (t ++ rest) = scan stack .colon rest
    ∧ scan stack .firstKey (t ++ rest) = scan stack .colon rest
  := by
  cases h with
  | quoted h =>
    have hopen : step stack .key quote = .next stack (.string true) := rfl
    have hfirst : step stack .firstKey quote = .next stack (.string true) := rfl
    rw [List.cons_append, List.cons_append, scan_next hopen, scan_next hfirst, List.append_assoc,
      h.scan_append, List.singleton_append]
    exact ⟨(scan_quote stack rest).1, (scan_quote stack rest).1⟩

/-- A written string is delimited. -/
theorem delimited_literal (b : Bytes) :
  Delimited (literal b)
  := (isString_literal b).delimited

/-! ### What the scanner passes over is a string -/

section

variable {stack : List Bracket} {isKey : Bool} {t rest : Bytes}

theorem exists_hexDigits {n : Nat} (h : scan stack (.numbered isKey n) t = some rest) :
  ∃ ds u, t = ds ++ u ∧ ds.length = n + 1 ∧ ds.all isHexDigit = true
    ∧ scan stack (.string isKey) u = some rest
  := by
  induction n generalizing t with
  | zero =>
    obtain ⟨d, r, rfl⟩ := ne_nil_of_scan rfl h
    by_cases hd : isHexDigit d = true
    · have hstep : step stack (.numbered isKey 0) d = .next stack (.string isKey) := by
        rw [step, if_pos hd]
      rw [scan_next hstep] at h
      exact ⟨[d], r, rfl, rfl, by simp [hd], h⟩
    · rw [scan_fail (by rw [step, if_neg hd])] at h
      cases h
  | succ n ih =>
    obtain ⟨d, r, rfl⟩ := ne_nil_of_scan rfl h
    by_cases hd : isHexDigit d = true
    · have hstep : step stack (.numbered isKey (n + 1)) d = .next stack (.numbered isKey n) := by
        rw [step, if_pos hd]
      rw [scan_next hstep] at h
      obtain ⟨ds, u, rfl, hlength, hds, hu⟩ := ih h
      exact ⟨d :: ds, u, rfl, congrArg (· + 1) hlength, by simp [hd, hds], hu⟩
    · rw [scan_fail (by rw [step, if_neg hd])] at h
      cases h

/-- What follows a backslash continues a string. -/
theorem exists_escape (h : scan stack (.escape isKey) t = some rest) :
  ∃ e u, t = e ++ u ∧ u.length < t.length
    ∧ (∀ s, StringBody s → StringBody (backslash :: (e ++ s)))
    ∧ scan stack (.string isKey) u = some rest
  := by
  obtain ⟨b, r, rfl⟩ := ne_nil_of_scan rfl h
  by_cases hletter : isEscapeLetter b = true
  · rw [scan_next (by rw [step, if_pos hletter])] at h
    exact ⟨[b], r, rfl, Nat.lt_succ_self _, fun _ hs => .escape hletter hs, h⟩
  by_cases hnumber : b = 0x75
  · subst hnumber
    have hstep : step stack (.escape isKey) 0x75 = .next stack (.numbered isKey 3) := rfl
    rw [scan_next hstep] at h
    obtain ⟨ds, u, rfl, hlength, hds, hu⟩ := exists_hexDigits h
    refine ⟨0x75 :: ds, u, rfl, ?_, fun _ hs => .numbered hlength hds hs, hu⟩
    simp only [List.length_cons, List.length_append]
    omega
  · rw [scan_fail (by rw [step, if_neg hletter, if_neg hnumber])] at h
    cases h

/-- The scanner leaves a string at a quote after what may stand in a string. -/
theorem exists_stringBody (h : scan stack (.string isKey) t = some rest) :
  ∃ s u, StringBody s ∧ t = s ++ quote :: u
    ∧ scan stack (.string isKey) (quote :: u) = some rest
  := by
  -- An escape takes several bytes, so the induction is on the length.
  obtain ⟨n, hn⟩ : ∃ n, t.length < n := ⟨_, Nat.lt_succ_self _⟩
  induction n generalizing t with
  | zero => cases hn
  | succ n ih =>
    obtain ⟨b, r, rfl⟩ := ne_nil_of_scan rfl h
    have hr : r.length < n := Nat.lt_of_succ_lt_succ hn
    by_cases hquote : b = quote
    · subst hquote
      exact ⟨[], r, .nil, rfl, h⟩
    by_cases hbackslash : b = backslash
    · subst hbackslash
      have hstep : step stack (.string isKey) backslash = .next stack (.escape isKey) := rfl
      rw [scan_next hstep] at h
      obtain ⟨e, u, rfl, hlength, he, hu⟩ := exists_escape h
      obtain ⟨s, v, hs, rfl, hv⟩ := ih hu (Nat.lt_trans hlength hr)
      exact ⟨backslash :: (e ++ s), v, he s hs, by simp, hv⟩
    have hstep := step_string stack isKey hquote hbackslash
    by_cases hcontrol : b < 0x20
    · rw [scan_fail (by rw [hstep, if_pos hcontrol])] at h
      cases h
    · rw [scan_next (by rw [hstep, if_neg hcontrol])] at h
      obtain ⟨s, u, hs, rfl, hu⟩ := ih h hr
      exact ⟨b :: s, u, .plain hquote hbackslash hcontrol hs, rfl, hu⟩

end

/-! ### The reader -/

/-- An escape is read as the byte that it stands for. -/
theorem unescape?_escape {b : UInt8} {r rest : Bytes} (h : escape? r = some ([b], rest)) :
  unescape? (backslash :: r) = (unescape? rest).map (b :: ·)
  := by
  have hne : backslash ≠ quote := by decide
  rw [unescape?, if_neg hne, if_pos rfl]
  split
  · next he =>
    rw [h] at he
    cases he
    rfl
  · next he =>
    rw [h] at he
    cases he

/-- A numbered escape of a byte below 128 stands for this byte. -/
theorem escape?_numbered {b : UInt8} (hb : b.toNat < 128) (rest : Bytes) :
  escape? (0x75 :: 0x30 :: 0x30 :: lowerHex (b / 16) :: lowerHex (b % 16) :: rest)
    = some ([b], rest)
  := by
  simp [escape?, numberedEscape?_escape hb, Bytes.utf8EncodeChar_ofNat hb]

/-- The written form of a byte is read as this byte. -/
theorem unescape?_escapeByte (b : UInt8) (rest : Bytes) :
  unescape? (escapeByte b ++ rest) = (unescape? rest).map (b :: ·)
  := by
  unfold escapeByte
  iterate 7
    split
    · next h =>
      rw [h]
      apply unescape?_escape
      rfl
  split
  · next h =>
    have hb : b.toNat < 128 := Nat.lt_trans (UInt8.lt_iff_toNat_lt.1 h) (by decide)
    exact unescape?_escape (escape?_numbered hb rest)
  · next hquote hbackslash _ _ _ _ _ hlow =>
    have hquote : b ≠ quote := hquote
    have hbackslash : b ≠ backslash := hbackslash
    rw [List.singleton_append, unescape?, if_neg hquote, if_neg hbackslash, if_neg hlow]

theorem unescape?_escaped (b : Bytes) :
  unescape? (b.flatMap escapeByte ++ [quote]) = some b
  := by
  induction b with
  | nil => simp [unescape?]
  | cons x b ih => rw [List.flatMap_cons, List.append_assoc, unescape?_escapeByte, ih]; rfl

/-- A written string is read as the bytes it was made from. -/
theorem literal?_literal (b : Bytes) :
  literal? (literal b) = some b
  := unescape?_escaped b

theorem text?_text (s : String) :
  text? (text s) = some s
  := by
  rw [text?, text, literal?_literal, Option.bind_some, Bytes.toText?_ofText]

/-! ### Texts -/

theorem isText_escapeByte {b : UInt8} (hb : b.toNat < 128) :
  Bytes.IsText (escapeByte b)
  := by
  obtain ⟨hhigh, hlow⟩ := lowerHex_lt b
  apply Bytes.IsText.of_isAscii
  unfold escapeByte Bytes.IsAscii
  repeat' split
  all_goals simp [backslash, hb, hhigh, hlow]

theorem escapeByte_of_le {b : UInt8} (hb : ¬ b.toNat < 128) :
  escapeByte b = [b]
  := by
  have hne : ∀ c : UInt8, c.toNat < 128 → b ≠ c := by
    rintro c hc rfl
    exact hb hc
  have hlow : ¬ b < 0x20 := by
    rw [UInt8.lt_iff_toNat_lt]
    exact fun h => hb (Nat.lt_trans h (by decide))
  simp [escapeByte, hne, hlow]

/-- A text between quotes is a text. -/
theorem isText_literal {b : Bytes} (h : Bytes.IsText b) :
  Bytes.IsText (literal b)
  := by
  have hquote : Bytes.IsText [quote] := Bytes.IsText.of_isAscii (by simp [Bytes.IsAscii, quote])
  apply (hquote.append _).append hquote
  exact h.flatMap (fun _ => isText_escapeByte) (fun _ => escapeByte_of_le)

end LedgerTrust.Json
