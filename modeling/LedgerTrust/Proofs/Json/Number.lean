import LedgerTrust.Json.Number
import LedgerTrust.Proofs.Data.Text
import LedgerTrust.Proofs.Json.Extent

/-!
# Numbers and words

The text of a number is delimited, and what the scanner passes over where a number starts is one:
for every place inside a number, the texts that complete the number from there on are those that
the scanner passes over, which one byte shows at a time. The digits that `Json.natural` writes are
the text of a number and are read as this number. The words for truth values and for a missing
value are delimited in the same way.
-/

namespace LedgerTrust.Json

/-! ### Digits -/

/-- The digit of a number below ten. -/
theorem digit_spec {n : Nat} (h : n < 10) :
  isDigit (0x30 + UInt8.ofNat n) = true
    ∧ (0x30 + UInt8.ofNat n : UInt8).toNat - 0x30 = n
    ∧ ((0x30 + UInt8.ofNat n : UInt8) = 0x30 → n = 0)
  := by
  revert h
  revert n
  decide

theorem isAscii_of_digits {t : Bytes} (h : t.all isDigit = true) :
  Bytes.IsAscii t
  := by
  intro x hx
  have hdigit := List.all_eq_true.1 h x hx
  simp only [isDigit, Bool.and_eq_true, decide_eq_true_eq, UInt8.le_iff_toNat_le] at hdigit
  exact Nat.lt_of_le_of_lt hdigit.2 (by decide)

/-- The digits of a number: there is a first one, which is zero only for the number zero. -/
theorem natural_spec (n : Nat) :
  ∃ d ds, natural n = d :: ds ∧ isDigit d = true ∧ ds.all isDigit = true
    ∧ (d = 0x30 → n = 0 ∧ ds = [])
  := by
  induction n using natural.induct with
  | case1 n h =>
    obtain ⟨hdigit, -, hzero⟩ := digit_spec h
    rw [natural, if_pos h]
    exact ⟨_, [], rfl, hdigit, rfl, fun hd => ⟨hzero hd, rfl⟩⟩
  | case2 n h ih =>
    obtain ⟨d, ds, he, hd, hds, hzero⟩ := ih
    obtain ⟨hlast, -⟩ := digit_spec (Nat.mod_lt n (by decide : 0 < 10))
    rw [natural, if_neg h, he]
    use d, ds ++ [0x30 + UInt8.ofNat (n % 10)]
    constructor
    · rfl
    constructor
    · exact hd
    constructor
    · simp [hds, hlast]
    · intro hd
      have := (hzero hd).1
      omega

theorem naturalOfDigits_append (t : Bytes) (d : UInt8) :
  naturalOfDigits (t ++ [d]) = 10 * naturalOfDigits t + (d.toNat - 0x30)
  := by
  simp [naturalOfDigits]

theorem naturalOfDigits_natural (n : Nat) :
  naturalOfDigits (natural n) = n
  := by
  induction n using natural.induct with
  | case1 n h =>
    obtain ⟨-, hvalue, -⟩ := digit_spec h
    rw [natural, if_pos h]
    simpa [naturalOfDigits] using hvalue
  | case2 n h ih =>
    obtain ⟨-, hvalue, -⟩ := digit_spec (Nat.mod_lt n (by decide : 0 < 10))
    rw [natural, if_neg h, naturalOfDigits_append, ih, hvalue]
    omega

/-- The digits of a number are read as the number. -/
theorem natural?_natural (n : Nat) :
  natural? (natural n) = some n
  := by
  have hvalue := naturalOfDigits_natural n
  obtain ⟨d, ds, he, hd, hds, hzero⟩ := natural_spec n
  rw [he] at hvalue ⊢
  rw [natural?, if_pos, hvalue]
  constructor
  · simp [hd, hds]
  constructor
  · nofun
  · intro hhead
    rw [(hzero (Option.some.inj hhead)).2]
    rfl

theorem isText_natural (n : Nat) :
  Bytes.IsText (natural n)
  := by
  obtain ⟨d, ds, he, hd, hds, -⟩ := natural_spec n
  apply Bytes.IsText.of_isAscii
  apply isAscii_of_digits
  simp [he, hd, hds]

/-- The digits of a number are the text of a number. -/
theorem isNumber_natural (n : Nat) :
  IsNumber (natural n)
  := by
  obtain ⟨d, ds, he, hd, hds, hzero⟩ := natural_spec n
  have hwhole : Whole (natural n) := by
    rw [he]
    by_cases h : d = 0x30
    · rw [h, (hzero h).2]
      exact .zero
    · exact .digits hd h hds
  have h := IsNumber.parts (.inl rfl) hwhole .none .none
  rwa [List.append_nil, List.append_nil] at h

/-! ### What completes a number -/

/-- The text completes a number of which a part has been read. -/
def Mode.CompletedBy : Mode → Bytes → Prop
  | .minus, t => ∃ w f e, Whole w ∧ Fraction f ∧ Exponent e ∧ t = w ++ (f ++ e)
  | .zero, t => ∃ f e, Fraction f ∧ Exponent e ∧ t = f ++ e
  | .whole, t => ∃ ds f e, ds.all isDigit = true ∧ Fraction f ∧ Exponent e ∧ t = ds ++ (f ++ e)
  | .point, t => ∃ ds e, Digits ds ∧ Exponent e ∧ t = ds ++ e
  | .fraction, t => ∃ ds e, ds.all isDigit = true ∧ Exponent e ∧ t = ds ++ e
  | .exponent, t =>
    ∃ sign ds, (sign = [] ∨ sign = [0x2b] ∨ sign = [0x2d]) ∧ Digits ds ∧ t = sign ++ ds
  | .exponentSign, t => Digits t
  | .exponentDigits, t => t.all isDigit = true
  | _, _ => False

/-- The scanner is inside a number. -/
def Mode.inNumber : Mode → Bool
  | .minus | .zero | .whole | .point | .fraction | .exponent | .exponentSign
  | .exponentDigits => true
  | _ => false

theorem digits_cons_iff {b : UInt8} {t : Bytes} :
  Digits (b :: t) ↔ isDigit b = true ∧ t.all isDigit = true
  := by
  constructor
  · rintro ⟨-, h⟩
    simpa using h
  · rintro ⟨hb, ht⟩
    exact ⟨List.cons_ne_nil b t, by simp [hb, ht]⟩

namespace Mode

variable {b : UInt8} {t : Bytes}

theorem completedBy_minus_cons :
  minus.CompletedBy (b :: t) ↔ (b = 0x30 ∧ zero.CompletedBy t)
    ∨ (b ≠ 0x30 ∧ isDigit b = true ∧ whole.CompletedBy t)
  := by
  constructor
  · rintro ⟨w, f, e, hw, hf, he, h⟩
    cases hw with
    | zero =>
      cases h
      exact .inl ⟨rfl, f, e, hf, he, rfl⟩
    | digits hd hzero hds =>
      cases h
      exact .inr ⟨hzero, hd, _, f, e, hds, hf, he, rfl⟩
  · rintro (⟨rfl, f, e, hf, he, rfl⟩ | ⟨hzero, hd, ds, f, e, hds, hf, he, rfl⟩)
    · exact ⟨[0x30], f, e, .zero, hf, he, rfl⟩
    · exact ⟨b :: ds, f, e, .digits hd hzero hds, hf, he, rfl⟩

theorem completedBy_zero_cons :
  zero.CompletedBy (b :: t) ↔ (b = 0x2e ∧ point.CompletedBy t)
    ∨ ((b = 0x65 ∨ b = 0x45) ∧ exponent.CompletedBy t)
  := by
  constructor
  · rintro ⟨f, e, hf, he, h⟩
    cases hf with
    | none =>
      cases he with
      | none => cases h
      | digits hletter hsign hds =>
        cases h
        exact .inr ⟨hletter, _, _, hsign, hds, rfl⟩
    | digits hds =>
      cases h
      exact .inl ⟨rfl, _, e, hds, he, rfl⟩
  · rintro (⟨rfl, ds, e, hds, he, rfl⟩ | ⟨hletter, sign, ds, hsign, hds, rfl⟩)
    · exact ⟨0x2e :: ds, e, .digits hds, he, rfl⟩
    · exact ⟨[], _, .none, .digits hletter hsign hds, rfl⟩

theorem completedBy_whole_cons :
  whole.CompletedBy (b :: t) ↔ (isDigit b = true ∧ whole.CompletedBy t)
    ∨ zero.CompletedBy (b :: t)
  := by
  constructor
  · rintro ⟨ds, f, e, hds, hf, he, h⟩
    cases ds with
    | nil => exact .inr ⟨f, e, hf, he, h⟩
    | cons d ds =>
      cases h
      rw [List.all_cons, Bool.and_eq_true] at hds
      exact .inl ⟨hds.1, ds, f, e, hds.2, hf, he, rfl⟩
  · rintro (⟨hb, ds, f, e, hds, hf, he, rfl⟩ | ⟨f, e, hf, he, h⟩)
    · exact ⟨b :: ds, f, e, by simp [hb, hds], hf, he, rfl⟩
    · exact ⟨[], f, e, rfl, hf, he, h⟩

theorem completedBy_point_cons :
  point.CompletedBy (b :: t) ↔ isDigit b = true ∧ fraction.CompletedBy t
  := by
  constructor
  · rintro ⟨ds, e, hds, he, h⟩
    obtain ⟨d, ds, rfl⟩ := List.exists_cons_of_ne_nil hds.ne_nil
    cases h
    obtain ⟨hb, hds⟩ := digits_cons_iff.1 hds
    exact ⟨hb, ds, e, hds, he, rfl⟩
  · rintro ⟨hb, ds, e, hds, he, rfl⟩
    exact ⟨b :: ds, e, digits_cons_iff.2 ⟨hb, hds⟩, he, rfl⟩

theorem completedBy_fraction_cons :
  fraction.CompletedBy (b :: t) ↔ (isDigit b = true ∧ fraction.CompletedBy t)
    ∨ ((b = 0x65 ∨ b = 0x45) ∧ exponent.CompletedBy t)
  := by
  constructor
  · rintro ⟨ds, e, hds, he, h⟩
    cases ds with
    | nil =>
      cases he with
      | none => cases h
      | digits hletter hsign hds =>
        cases h
        exact .inr ⟨hletter, _, _, hsign, hds, rfl⟩
    | cons d ds =>
      cases h
      rw [List.all_cons, Bool.and_eq_true] at hds
      exact .inl ⟨hds.1, ds, e, hds.2, he, rfl⟩
  · rintro (⟨hb, ds, e, hds, he, rfl⟩ | ⟨hletter, sign, ds, hsign, hds, rfl⟩)
    · exact ⟨b :: ds, e, by simp [hb, hds], he, rfl⟩
    · exact ⟨[], _, rfl, .digits hletter hsign hds, rfl⟩

theorem completedBy_exponent_cons :
  exponent.CompletedBy (b :: t) ↔ ((b = 0x2b ∨ b = 0x2d) ∧ exponentSign.CompletedBy t)
    ∨ (isDigit b = true ∧ exponentDigits.CompletedBy t)
  := by
  constructor
  · rintro ⟨sign, ds, rfl | rfl | rfl, hds, h⟩
    · rw [← List.nil_append ds, ← h] at hds
      exact .inr (digits_cons_iff.1 hds)
    · cases h
      exact .inl ⟨.inl rfl, hds⟩
    · cases h
      exact .inl ⟨.inr rfl, hds⟩
  · rintro (⟨rfl | rfl, hds⟩ | hds)
    · exact ⟨[0x2b], t, .inr (.inl rfl), hds, rfl⟩
    · exact ⟨[0x2d], t, .inr (.inr rfl), hds, rfl⟩
    · exact ⟨[], b :: t, .inl rfl, digits_cons_iff.2 hds, rfl⟩

theorem completedBy_exponentSign_cons :
  exponentSign.CompletedBy (b :: t) ↔ isDigit b = true ∧ exponentDigits.CompletedBy t
  := digits_cons_iff

theorem completedBy_exponentDigits_cons :
  exponentDigits.CompletedBy (b :: t) ↔ isDigit b = true ∧ exponentDigits.CompletedBy t
  := by
  simp [CompletedBy]

/-- Nothing is missing where a number can end. -/
theorem completedBy_nil {mode : Mode} :
  mode.CompletedBy [] ↔ mode.endsNumber = true
  := by
  have hdigits : ¬ Digits [] := fun h => h.ne_nil rfl
  cases mode with
  | zero => exact ⟨fun _ => rfl, fun _ => ⟨[], [], .none, .none, rfl⟩⟩
  | whole => exact ⟨fun _ => rfl, fun _ => ⟨[], [], [], rfl, .none, .none, rfl⟩⟩
  | fraction => exact ⟨fun _ => rfl, fun _ => ⟨[], [], rfl, .none, rfl⟩⟩
  | exponentDigits => exact ⟨fun _ => rfl, fun _ => rfl⟩
  | minus =>
    refine ⟨?_, nofun⟩
    rintro ⟨w, f, e, hw, -, -, h⟩
    cases hw with
    | zero => cases h
    | digits => cases h
  | point =>
    refine ⟨?_, nofun⟩
    rintro ⟨ds, e, hds, -, h⟩
    exact absurd (List.append_eq_nil_iff.1 h.symm).1 hds.ne_nil
  | exponent =>
    refine ⟨?_, nofun⟩
    rintro ⟨sign, ds, -, hds, h⟩
    exact absurd (List.append_eq_nil_iff.1 h.symm).2 hds.ne_nil
  | exponentSign => exact ⟨fun h => absurd h hdigits, nofun⟩
  | _ => exact ⟨nofun, nofun⟩

end Mode

/-! ### The scanner passes over numbers -/

/-- A digit is none of the other bytes of a number. -/
theorem ne_of_isDigit {b : UInt8} (hb : isDigit b = true) :
  b ≠ 0x2e ∧ ¬ (b = 0x65 ∨ b = 0x45) ∧ ¬ (b = 0x2b ∨ b = 0x2d)
  := by
  constructor
  · rintro rfl
    cases hb
  constructor
  · rintro (rfl | rfl)
    · cases hb
    · cases hb
  · rintro (rfl | rfl)
    · cases hb
    · cases hb

/-- Where a number can end, a byte that does not continue one ends it. -/
theorem step_endsNumber {mode : Mode} (hmode : mode.endsNumber = true) {b : UInt8}
    (hb : continuesNumber b = false) (stack : List Bracket) :
  step stack mode b = .pastNumber stack b
  := by
  simp only [continuesNumber, Bool.or_eq_false_iff, beq_eq_false_iff_ne, ne_eq] at hb
  cases mode with
  | zero => simp [step, Step.afterWhole, hb]
  | whole => simp [step, Step.afterWhole, hb]
  | fraction => simp [step, hb]
  | exponentDigits => simp [step, hb]
  | _ => cases hmode

/-- What a byte does inside a number: the scanner goes on to complete it, or no number goes on
with this byte. -/
inductive NumberStep (stack : List Bracket) (mode : Mode) (b : UInt8) : Prop
  | next (mode' : Mode) (hstep : step stack mode b = .next stack mode')
      (hmode : mode'.inNumber = true)
      (h : ∀ t, mode.CompletedBy (b :: t) ↔ mode'.CompletedBy t)
  | fail (hstep : step stack mode b = .fail) (h : ∀ t, ¬ mode.CompletedBy (b :: t))
  | past (hends : mode.endsNumber = true) (hstep : step stack mode b = .pastNumber stack b)
      (h : ∀ t, ¬ mode.CompletedBy (b :: t))

theorem numberStep_zero (stack : List Bracket) (b : UInt8) :
  NumberStep stack .zero b
  := by
  by_cases hpoint : b = 0x2e
  · apply NumberStep.next .point
    · simp [step, Step.afterWhole, hpoint]
    · rfl
    · simp [Mode.completedBy_zero_cons, hpoint]
  by_cases hletter : b = 0x65 ∨ b = 0x45
  · apply NumberStep.next .exponent
    · simp [step, Step.afterWhole, hpoint, hletter]
    · rfl
    · simp [Mode.completedBy_zero_cons, hpoint, hletter]
  · apply NumberStep.past rfl
    · simp [step, Step.afterWhole, hpoint, hletter]
    · simp [Mode.completedBy_zero_cons, hpoint, hletter]

theorem numberStep {mode : Mode} (hmode : mode.inNumber = true) (stack : List Bracket)
    (b : UInt8) :
  NumberStep stack mode b
  := by
  cases mode with
  | zero => exact numberStep_zero stack b
  | minus =>
    by_cases hzero : b = 0x30
    · apply NumberStep.next .zero
      · simp [step, hzero]
      · rfl
      · simp [Mode.completedBy_minus_cons, hzero]
    by_cases hb : isDigit b = true
    · apply NumberStep.next .whole
      · simp [step, hzero, hb]
      · rfl
      · simp [Mode.completedBy_minus_cons, hzero, hb]
    · apply NumberStep.fail
      · simp [step, hzero, hb]
      · simp [Mode.completedBy_minus_cons, hzero, hb]
  | whole =>
    by_cases hb : isDigit b = true
    · obtain ⟨hpoint, hletter, -⟩ := ne_of_isDigit hb
      apply NumberStep.next .whole
      · simp [step, hb]
      · rfl
      · simp [Mode.completedBy_whole_cons, Mode.completedBy_zero_cons, hb, hpoint, hletter]
    · -- A byte that is no digit does what it does after a zero.
      have hstep : step stack .whole b = step stack .zero b := by simp [step, hb]
      cases numberStep_zero stack b with
      | next mode' h hmode' hiff =>
        exact .next mode' (hstep.trans h) hmode' (by simpa [Mode.completedBy_whole_cons, hb])
      | fail h hiff => exact .fail (hstep.trans h) (by simpa [Mode.completedBy_whole_cons, hb])
      | past hends h hiff =>
        exact .past rfl (hstep.trans h) (by simpa [Mode.completedBy_whole_cons, hb])
  | fraction =>
    by_cases hb : isDigit b = true
    · obtain ⟨-, hletter, -⟩ := ne_of_isDigit hb
      apply NumberStep.next .fraction
      · simp [step, hb]
      · rfl
      · simp [Mode.completedBy_fraction_cons, hb, hletter]
    by_cases hletter : b = 0x65 ∨ b = 0x45
    · apply NumberStep.next .exponent
      · simp [step, hb, hletter]
      · rfl
      · simp [Mode.completedBy_fraction_cons, hb, hletter]
    · apply NumberStep.past rfl
      · simp [step, hb, hletter]
      · simp [Mode.completedBy_fraction_cons, hb, hletter]
  | exponent =>
    by_cases hsign : b = 0x2b ∨ b = 0x2d
    · have hb : ¬ isDigit b = true := fun hb => (ne_of_isDigit hb).2.2 hsign
      apply NumberStep.next .exponentSign
      · simp [step, hsign]
      · rfl
      · simp [Mode.completedBy_exponent_cons, hsign, hb]
    by_cases hb : isDigit b = true
    · apply NumberStep.next .exponentDigits
      · simp [step, hsign, hb]
      · rfl
      · simp [Mode.completedBy_exponent_cons, hsign, hb]
    · apply NumberStep.fail
      · simp [step, hsign, hb]
      · simp [Mode.completedBy_exponent_cons, hsign, hb]
  | point =>
    by_cases hb : isDigit b = true
    · exact .next .fraction (by simp [step, hb]) rfl (by simp [Mode.completedBy_point_cons, hb])
    · exact .fail (by simp [step, hb]) (by simp [Mode.completedBy_point_cons, hb])
  | exponentSign =>
    by_cases hb : isDigit b = true
    · exact .next .exponentDigits (by simp [step, hb]) rfl
        (by simp [Mode.completedBy_exponentSign_cons, hb])
    · exact .fail (by simp [step, hb]) (by simp [Mode.completedBy_exponentSign_cons, hb])
  | exponentDigits =>
    by_cases hb : isDigit b = true
    · exact .next .exponentDigits (by simp [step, hb]) rfl
        (by simp [Mode.completedBy_exponentDigits_cons, hb])
    · exact .past rfl (by simp [step, hb]) (by simp [Mode.completedBy_exponentDigits_cons, hb])
  | _ => cases hmode

/-- A text that completes a number is passed over, up to a text that stops. -/
theorem scan_completedBy {mode : Mode} (hmode : mode.inNumber = true) {t rest : Bytes}
    (h : mode.CompletedBy t) (hrest : Stops rest) (stack : List Bracket) :
  scan stack mode (t ++ rest) = finish stack rest
  := by
  induction t generalizing mode with
  | nil =>
    have hends := Mode.completedBy_nil.1 h
    cases rest with
    | nil => exact scan_nil hends stack
    | cons b r => exact scan_past (step_endsNumber hends (stops_cons.1 hrest) stack) r
  | cons b t ih =>
    cases numberStep hmode stack b with
    | next mode' hstep hmode' hiff =>
      rw [List.cons_append, scan_next hstep]
      exact ih hmode' ((hiff t).1 h)
    | fail hstep hnone => exact absurd h (hnone t)
    | past hends hstep hnone => exact absurd h (hnone t)

/-- The scanner leaves a number after a text that completes it. -/
theorem exists_completedBy {mode : Mode} (hmode : mode.inNumber = true) {stack : List Bracket}
    {t rest : Bytes} (h : scan stack mode t = some rest) :
  ∃ n u, mode.CompletedBy n ∧ t = n ++ u ∧ finish stack u = some rest
  := by
  induction t generalizing mode with
  | nil =>
    cases hends : mode.endsNumber with
    | true =>
      rw [scan_nil hends] at h
      exact ⟨[], [], Mode.completedBy_nil.2 hends, rfl, h⟩
    | false => simp [scan, hends] at h
  | cons b t ih =>
    cases numberStep hmode stack b with
    | next mode' hstep hmode' hiff =>
      rw [scan_next hstep] at h
      obtain ⟨n, u, hn, rfl, hu⟩ := ih hmode' h
      exact ⟨b :: n, u, (hiff n).2 hn, rfl, hu⟩
    | fail hstep =>
      rw [scan_fail hstep] at h
      cases h
    | past hends hstep =>
      rw [scan_past hstep] at h
      exact ⟨[], b :: t, Mode.completedBy_nil.2 hends, rfl, h⟩

/-- What the first digit of a number does. -/
theorem step_digit {d : UInt8} (hd : isDigit d = true) (stack : List Bracket) :
  isBlank d = false
    ∧ step stack .value d = .next stack (if d = 0x30 then .zero else .whole)
  := by
  have hall : ∀ n < 256, isDigit (UInt8.ofNat n) = true →
      isBlank (UInt8.ofNat n) = false ∧ UInt8.ofNat n ≠ 0x22 ∧ UInt8.ofNat n ≠ 0x7b
        ∧ UInt8.ofNat n ≠ 0x5b ∧ UInt8.ofNat n ≠ 0x2d := by
    decide +kernel
  obtain ⟨hblank, hquote, hobject, harray, hminus⟩ := Bytes.forall_byte (P := fun d =>
    isDigit d = true → isBlank d = false ∧ d ≠ 0x22 ∧ d ≠ 0x7b ∧ d ≠ 0x5b ∧ d ≠ 0x2d) hall d hd
  constructor
  · exact hblank
  · simp only [step, Step.start, hblank, Bool.false_eq_true, if_false, if_neg hquote,
      if_neg hobject, if_neg harray, if_neg hminus, if_pos hd]
    split
    · rfl
    · rfl

/-- A number is a minus sign and what completes it, or does without the sign. -/
theorem isNumber_iff {t : Bytes} :
  IsNumber t ↔ (∃ n, t = 0x2d :: n ∧ Mode.minus.CompletedBy n) ∨ Mode.minus.CompletedBy t
  := by
  constructor
  · rintro ⟨rfl | rfl, hw, hf, he⟩
    · exact .inr ⟨_, _, _, hw, hf, he, rfl⟩
    · exact .inl ⟨_, rfl, _, _, _, hw, hf, he, rfl⟩
  · rintro (⟨n, rfl, w, f, e, hw, hf, he, rfl⟩ | ⟨w, f, e, hw, hf, he, rfl⟩)
    · exact .parts (.inr rfl) hw hf he
    · exact .parts (.inl rfl) hw hf he

/-- The text of a number is delimited. -/
theorem IsNumber.delimited {t : Bytes} (h : IsNumber t) :
  Delimited t
  := by
  rcases isNumber_iff.1 h with ⟨n, rfl, hn⟩ | hn
  · constructor
    · exact ⟨0x2d, n, rfl, rfl⟩
    · intro stack rest hrest
      have hminus : step stack .value 0x2d = .next stack .minus := rfl
      rw [List.cons_append, scan_next hminus, scan_completedBy rfl hn hrest]
  · cases t with
    | nil => cases Mode.completedBy_nil.1 hn
    | cons d n =>
      have hd : isDigit d = true := by
        rcases Mode.completedBy_minus_cons.1 hn with ⟨rfl, -⟩ | ⟨-, hd, -⟩
        · rfl
        · exact hd
      constructor
      · exact ⟨d, n, rfl, (step_digit hd []).1⟩
      · intro stack rest hrest
        rw [List.cons_append, scan_next (step_digit hd stack).2]
        rcases Mode.completedBy_minus_cons.1 hn with ⟨rfl, hn⟩ | ⟨hzero, -, hn⟩
        · exact scan_completedBy rfl hn hrest stack
        · rw [if_neg hzero]
          exact scan_completedBy rfl hn hrest stack

theorem delimited_natural (n : Nat) :
  Delimited (natural n)
  := (isNumber_natural n).delimited

/-- The scanner leaves a number that starts with a digit after the text of a number. -/
theorem exists_number_digit {stack : List Bracket} {d : UInt8} {t rest : Bytes}
    (hd : isDigit d = true) (h : scan stack .value (d :: t) = some rest) :
  ∃ n u, IsNumber n ∧ d :: t = n ++ u ∧ finish stack u = some rest
  := by
  rw [scan_next (step_digit hd stack).2] at h
  by_cases hzero : d = 0x30
  · rw [if_pos hzero] at h
    obtain ⟨n, u, hn, rfl, hu⟩ := exists_completedBy rfl h
    exact ⟨d :: n, u, isNumber_iff.2 (.inr (Mode.completedBy_minus_cons.2 (.inl ⟨hzero, hn⟩))),
      rfl, hu⟩
  · rw [if_neg hzero] at h
    obtain ⟨n, u, hn, rfl, hu⟩ := exists_completedBy rfl h
    exact ⟨d :: n, u,
      isNumber_iff.2 (.inr (Mode.completedBy_minus_cons.2 (.inr ⟨hzero, hd, hn⟩))), rfl, hu⟩

theorem exists_number_minus {stack : List Bracket} {t rest : Bytes}
    (h : scan stack .value (0x2d :: t) = some rest) :
  ∃ n u, IsNumber n ∧ 0x2d :: t = n ++ u ∧ finish stack u = some rest
  := by
  have hminus : step stack .value 0x2d = .next stack .minus := rfl
  rw [scan_next hminus] at h
  obtain ⟨n, u, hn, rfl, hu⟩ := exists_completedBy rfl h
  exact ⟨0x2d :: n, u, isNumber_iff.2 (.inl ⟨n, rfl, hn⟩), rfl, hu⟩

/-! ### Words -/

theorem scan_word (stack : List Bracket) {b : UInt8} {r : Bytes} (rest : Bytes) :
  scan stack (.word (b :: r)) (b :: r ++ rest) = finish stack rest
  := by
  induction r generalizing b with
  | nil =>
    have hstep : step stack (.word [b]) b = .ended stack := by rw [step, if_pos rfl]
    exact scan_ended hstep rest
  | cons c r ih =>
    have hstep : step stack (.word (b :: c :: r)) b = .next stack (.word (c :: r)) := by
      rw [step, if_pos rfl]
      intro h
      cases h
    rw [List.cons_append, scan_next hstep, ih]

/-- The scanner leaves a word after its letters. -/
theorem exists_word {stack : List Bracket} {b : UInt8} {r t rest : Bytes}
    (h : scan stack (.word (b :: r)) t = some rest) :
  ∃ u, t = b :: r ++ u ∧ finish stack u = some rest
  := by
  induction r generalizing b t with
  | nil =>
    obtain ⟨c, t, rfl⟩ := ne_nil_of_scan rfl h
    by_cases hc : c = b
    · have hstep : step stack (.word [b]) c = .ended stack := by rw [step, if_pos hc]
      rw [scan_ended hstep] at h
      exact ⟨t, by rw [hc]; rfl, h⟩
    · rw [scan_fail (by rw [step, if_neg hc])] at h
      cases h
  | cons d r ih =>
    obtain ⟨c, t, rfl⟩ := ne_nil_of_scan rfl h
    have hstep : step stack (.word (b :: d :: r)) c
        = if c = b then .next stack (.word (d :: r)) else .fail := by
      rw [step]
      exact List.cons_ne_nil d r
    by_cases hc : c = b
    · rw [scan_next (by rw [hstep, if_pos hc])] at h
      obtain ⟨u, rfl, hu⟩ := ih h
      exact ⟨u, by rw [hc]; rfl, hu⟩
    · rw [scan_fail (by rw [hstep, if_neg hc])] at h
      cases h

theorem delimited_nullWord :
  Delimited nullWord
  where
  starts := ⟨_, _, rfl, rfl⟩
  scan_append stack rest _ := scan_word stack rest

theorem delimited_boolWord (b : Bool) :
  Delimited (boolWord b)
  := by
  cases b with
  | false => exact ⟨⟨_, _, rfl, rfl⟩, fun stack rest _ => scan_word stack rest⟩
  | true => exact ⟨⟨_, _, rfl, rfl⟩, fun stack rest _ => scan_word stack rest⟩

theorem isText_nullWord :
  Bytes.IsText nullWord
  := by
  apply Bytes.IsText.of_isAscii
  unfold Bytes.IsAscii
  decide +kernel

theorem isText_boolWord (b : Bool) :
  Bytes.IsText (boolWord b)
  := by
  apply Bytes.IsText.of_isAscii
  revert b
  unfold Bytes.IsAscii
  decide +kernel

end LedgerTrust.Json
