import Mathlib.Tactic.SplitIfs
import LedgerTrust.Proofs.Data.Text
import LedgerTrust.Proofs.Data.TextMap

/-!
# The order of texts

Texts are in the order of their UTF-8 forms: the forms of two characters differ, at the first byte
in which they do, the way that the numbers of the characters differ.
-/

namespace LedgerTrust

namespace Bytes

theorem ofNat_lt_ofNat_iff (m n : Nat) :
  UInt8.ofNat m < UInt8.ofNat n ↔ m % 256 < n % 256
  := by simp [UInt8.lt_iff_toNat_lt]

theorem ofNat_eq_ofNat_iff (m n : Nat) :
  UInt8.ofNat m = UInt8.ofNat n ↔ m % 256 = n % 256
  := by simp [← UInt8.toNat_inj]

theorem div_4096 (n : Nat) :
  n / 4096 = n / 64 / 64
  := (Nat.div_div_eq_div_mul n 64 64).symm

theorem div_262144 (n : Nat) :
  n / 262144 = n / 64 / 64 / 64
  := by rw [Nat.div_div_eq_div_mul, Nat.div_div_eq_div_mul]

/-- The form of a smaller character is smaller, whatever follows. -/
theorem utf8EncodeChar_append_lt {c d : Char} (h : c < d) (x y : Bytes) :
  String.utf8EncodeChar c ++ x < String.utf8EncodeChar d ++ y
  := by
  have hlt : c.val.toNat < d.val.toNat := h
  have hd : d.val.toNat < 0x110000 := by
    have hvalid : d.val.toNat.isValidChar := d.valid
    rcases hvalid with hvalid | ⟨-, hvalid⟩
    · omega
    · exact hvalid
  unfold String.utf8EncodeChar
  generalize c.val.toNat = m at hlt
  generalize d.val.toNat = n at hlt hd
  dsimp only
  -- The forms have one to four bytes each; a longer one starts with a greater byte.
  split_ifs
  all_goals
    simp only [List.cons_append, List.nil_append, List.cons_lt_cons_iff, ofNat_lt_ofNat_iff,
      ofNat_eq_ofNat_iff, div_4096, div_262144]
    omega

theorem ofText_lt_of_lt {s t : String} (h : s < t) :
  ofText s < ofText t
  := by
  obtain ⟨a, rfl⟩ : ∃ a, s = String.ofList a := ⟨s.toList, String.ofList_toList.symm⟩
  obtain ⟨b, rfl⟩ : ∃ b, t = String.ofList b := ⟨t.toList, String.ofList_toList.symm⟩
  rw [String.lt_iff, String.toList_ofList, String.toList_ofList] at h
  induction a generalizing b with
  | nil =>
    cases b with
    | nil => exact absurd h (List.lt_irrefl [])
    | cons d b =>
      rw [ofText_ofList_nil, ofText_ofList_cons]
      cases hform : String.utf8EncodeChar d with
      | nil => exact absurd hform (by simp)
      | cons x r => apply List.nil_lt_cons
  | cons c a ih =>
    cases b with
    | nil => exact absurd h (List.not_lt_nil _)
    | cons d b =>
      rw [ofText_ofList_cons, ofText_ofList_cons]
      obtain hlt | ⟨rfl, hlt⟩ := List.cons_lt_cons_iff.1 h
      · apply utf8EncodeChar_append_lt hlt
      · apply List.append_left_lt
        apply ih b hlt

/-- The order of texts is the order of their UTF-8 forms, byte by byte. -/
theorem ofText_lt_ofText_iff {s t : String} :
  ofText s < ofText t ↔ s < t
  := by
  constructor
  · intro h
    apply Decidable.byContradiction
    intro hnot
    by_cases heq : s = t
    · exact List.lt_irrefl _ (heq ▸ h)
    · exact List.lt_asymm h (ofText_lt_of_lt (TextMap.lt_of_not_lt_of_ne hnot heq))
  · apply ofText_lt_of_lt

end Bytes

/-- Texts that are in the order of their UTF-8 forms, none of them twice. -/
def InByteOrder (l : List String) : Prop :=
  l.Pairwise fun s t => Bytes.ofText s < Bytes.ofText t

theorem inByteOrder_iff {l : List String} :
  InByteOrder l ↔ l.Pairwise (· < ·)
  := by simp only [InByteOrder, Bytes.ofText_lt_ofText_iff]

theorem TextMap.inByteOrder_keys {β : Type} (m : TextMap β) :
  InByteOrder m.keys
  := by
  apply inByteOrder_iff.2
  apply m.sorted_keys

end LedgerTrust
