import Mathlib.NumberTheory.Padics.PadicVal.Basic
import LedgerTrust.Proof.SkipList

/-!
# Skip links as powers of two

Block `n` links to the blocks at the distances `2 ^ i` for which `2 ^ i` divides `n - 1`. Links do
not cross: if `n` links to `t` at the distance `2 ^ i`, then `t - 1` is a multiple of `2 ^ i` as
`n - 1` is, and there is no other one in between, so the blocks in between have shorter links, and
none that leads beyond `t`. This is what makes walks that hop as far as they can shortest, and it
leaves one way at most to go from one block to another in two steps.
-/

namespace LedgerTrust.SkipList

variable {n t x y : UInt64}

/-! ### Distances -/

theorem toNat_distance {i : Nat} (h : i < 64) :
  ((1 : UInt64) <<< UInt64.ofNat i).toNat = 2 ^ i
  := by
  have hi : i < 2 ^ 64 := Nat.lt_trans h (by decide)
  have hpower : 2 ^ i < 2 ^ 64 := Nat.pow_lt_pow_right (by decide) h
  rw [UInt64.toNat_shiftLeft, UInt64.toNat_ofNat', Nat.mod_eq_of_lt hi, Nat.mod_eq_of_lt h]
  rw [UInt64.toNat_one, Nat.one_shiftLeft, Nat.mod_eq_of_lt hpower]

theorem dvd_pred_iff (h : 1 < n) (i : Nat) :
  2 ^ i ∣ n.toNat - 1 ↔ i < padicValNat 2 (n.toNat - 1) + 1
  := by
  have hn : 1 < n.toNat := UInt64.lt_iff_toNat_lt.1 h
  rw [padicValNat_dvd_iff_le (by omega), Nat.lt_succ_iff]

/-- A distance that divides `n - 1` is below `n`, and is one of the 64 distances. -/
theorem lt_of_dvd_pred (h : 1 < n) {i : Nat} (hi : 2 ^ i ∣ n.toNat - 1) :
  2 ^ i < n.toNat ∧ i < 64
  := by
  have hn : 1 < n.toNat := UInt64.lt_iff_toNat_lt.1 h
  have hle : 2 ^ i ≤ n.toNat - 1 := Nat.le_of_dvd (by omega) hi
  have hsize := n.toNat_lt
  constructor
  · omega
  · apply (Nat.pow_lt_pow_iff_right (a := 2) (by decide)).1
    omega

theorem toNat_sub_distance (h : 1 < n) {i : Nat} (hi : 2 ^ i ∣ n.toNat - 1) :
  (n - 1 <<< UInt64.ofNat i).toNat = n.toNat - 2 ^ i
  := by
  obtain ⟨hlt, hexponent⟩ := lt_of_dvd_pred h hi
  rw [UInt64.toNat_sub_of_le, toNat_distance hexponent]
  rw [UInt64.le_iff_toNat_le, toNat_distance hexponent]
  apply Nat.le_of_lt hlt

/-- If a test holds of the numbers below `m` only, these are what is taken while it holds. -/
theorem takeWhile_range {p : Nat → Bool} {m k : Nat} (hm : m ≤ k)
    (h : ∀ i < k, p i = true ↔ i < m) :
  (List.range k).takeWhile p = List.range m
  := by
  obtain ⟨d, rfl⟩ := Nat.exists_eq_add_of_le hm
  rw [List.range_add, List.takeWhile_append_of_pos]
  · cases d with
    | zero => simp
    | succ d =>
      have hnot : ¬ p m = true := by
        rw [h m (by omega)]
        apply Nat.lt_irrefl
      simp [List.range_succ_eq_map, hnot]
  · intro i hi
    have hlt := List.mem_range.1 hi
    apply (h i (by omega)).2 hlt

/-- A block `n` beyond the first links to the blocks at the distances that divide `n - 1`, nearest
first. -/
theorem targets_eq (h : 1 < n) :
  targets n = (List.range (padicValNat 2 (n.toNat - 1) + 1)).map fun i => n - 1 <<< UInt64.ofNat i
  := by
  have hvalue : padicValNat 2 (n.toNat - 1) + 1 ≤ 64 := by
    apply (lt_of_dvd_pred h _).2
    apply pow_padicValNat_dvd
  rw [targets, if_neg (UInt64.not_le.2 h), distances, List.takeWhile_map, takeWhile_range hvalue,
    List.map_map]
  · rfl
  · intro i hi
    rw [← dvd_pred_iff h, Function.comp_apply, Bool.and_eq_true, decide_eq_true_eq, beq_iff_eq,
      UInt64.lt_iff_toNat_lt, ← UInt64.toNat_inj, UInt64.toNat_mod, toNat_distance hi,
      UInt64.toNat_sub_of_le n 1 (UInt64.le_of_lt h)]
    constructor
    · intro ⟨_, hmod⟩
      apply Nat.dvd_of_mod_eq_zero hmod
    · intro hdvd
      constructor
      · apply (lt_of_dvd_pred h hdvd).1
      · apply Nat.mod_eq_zero_of_dvd hdvd

/-- A block `n` links to an earlier one exactly if the distance is a power of two that divides
`n - 1`. -/
theorem mem_targets_iff :
  t ∈ targets n ↔ ∃ i, n.toNat = t.toNat + 2 ^ i ∧ 1 ≤ t.toNat ∧ 2 ^ i ∣ n.toNat - 1
  := by
  by_cases h : 1 < n
  · rw [targets_eq h, List.mem_map]
    constructor
    · rintro ⟨i, hi, rfl⟩
      have hdvd := (dvd_pred_iff h i).2 (List.mem_range.1 hi)
      have hlt := (lt_of_dvd_pred h hdvd).1
      use i
      rw [toNat_sub_distance h hdvd]
      exact ⟨by omega, by omega, hdvd⟩
    · rintro ⟨i, hn, hpos, hdvd⟩
      use i, List.mem_range.2 ((dvd_pred_iff h i).1 hdvd)
      apply UInt64.toNat_inj.1
      rw [toNat_sub_distance h hdvd]
      omega
  · rw [targets, if_pos (UInt64.not_lt.1 h)]
    constructor
    · intro hmem
      cases hmem
    · rintro ⟨i, hn, hpos, -⟩
      have hpower := Nat.two_pow_pos i
      rw [UInt64.lt_iff_toNat_lt, UInt64.toNat_one] at h
      omega

/-! ### Links do not cross -/

/-- From a block between the ends of a link, no link leads beyond the farther end. -/
theorem le_of_mem_targets (ht : t ∈ targets n) (hlow : t < x) (hhigh : x < n) (hy : y ∈ targets x) :
  t ≤ y
  := by
  obtain ⟨i, hn, hpos, hi⟩ := mem_targets_iff.1 ht
  obtain ⟨j, hx, -, hj⟩ := mem_targets_iff.1 hy
  rw [UInt64.lt_iff_toNat_lt] at hlow hhigh
  apply UInt64.not_lt.1
  intro hlt
  rw [UInt64.lt_iff_toNat_lt] at hlt
  -- Both distances are greater than `x - t`, and the smaller one divides it.
  have hdvd : 2 ^ min i j ∣ x.toNat - t.toNat := by
    have hit : 2 ^ min i j ∣ t.toNat - 1 := by
      have hpower : 2 ^ min i j ∣ 2 ^ i := Nat.pow_dvd_pow 2 (Nat.min_le_left i j)
      have hsub := Nat.dvd_sub (Nat.dvd_trans hpower hi) hpower
      rwa [show n.toNat - 1 - 2 ^ i = t.toNat - 1 by omega] at hsub
    have hix : 2 ^ min i j ∣ x.toNat - 1 :=
      Nat.dvd_trans (Nat.pow_dvd_pow 2 (Nat.min_le_right i j)) hj
    have hsub := Nat.dvd_sub hix hit
    rwa [show x.toNat - 1 - (t.toNat - 1) = x.toNat - t.toNat by omega] at hsub
  have hle := Nat.le_of_dvd (by omega) hdvd
  obtain h | h := Nat.le_total i j
  · rw [Nat.min_eq_left h] at hle
    omega
  · rw [Nat.min_eq_right h] at hle
    omega

/-- There is one way at most to go from one block to another in two steps. -/
theorem midpoint_unique {m : UInt64} (hx : x ∈ targets n) (hy : y ∈ targets n)
    (hxt : m ∈ targets x) (hyt : m ∈ targets y) :
  x = y
  := by
  apply UInt64.le_antisymm
  · apply UInt64.not_lt.1
    intro hlt
    have hle := le_of_mem_targets hy hlt (lt_of_mem_targets hx) hxt
    apply UInt64.not_lt.2 hle (lt_of_mem_targets hyt)
  · apply UInt64.not_lt.1
    intro hlt
    have hle := le_of_mem_targets hx hlt (lt_of_mem_targets hy) hyt
    apply UInt64.not_lt.2 hle (lt_of_mem_targets hxt)

end LedgerTrust.SkipList
