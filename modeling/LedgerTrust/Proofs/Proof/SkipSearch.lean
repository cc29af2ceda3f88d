import LedgerTrust.Proofs.Proof.SkipLink

/-!
# The search for skip links

The links of a block can be looked for one after the other: from the nearest block on, a distance is
tried and then doubled, until there is no link at it. Three tests are made of a distance. The first
two only say that there is a block at it, and follow from the third one, that it divides `n - 1`.

All of this is done with words of 64 bits, where differences can wrap, remainders can be taken by
zero, and a distance cannot be doubled without end. `search` stops with a fault where one of these
happens. None does for any block (`search_eq`): what is found are the `targets`, and these are the
blocks at the distances `1, 2, 4, …` up to the largest power of two that divides `n - 1`.
-/

namespace LedgerTrust.SkipList

/-! ### Arithmetic of words -/

/-- What can go wrong in the arithmetic of words. -/
inductive Fault where
  /-- A difference is below zero. -/
  | wraps
  /-- A remainder is taken by zero. -/
  | dividesByZero
  deriving DecidableEq, Repr

/-- The difference of two words. -/
def minus (a b : UInt64) : Except Fault UInt64 := if b ≤ a then .ok (a - b) else .error .wraps

/-- The remainder of a word by another one. -/
def remainder (a b : UInt64) : Except Fault UInt64 :=
  if b = 0 then .error .dividesByZero else .ok (a % b)

/-- Twice a word, if this is a word. -/
def double? (d : UInt64) : Option UInt64 :=
  if 2 * d.toNat < UInt64.size then some (2 * d) else none

theorem lt_of_double? {d d' : UInt64} (hpos : d ≠ 0) (h : double? d = some d') :
  d.toNat < d'.toNat
  := by
  unfold double? at h
  split at h
  · next hfits =>
    cases h
    have hd : d.toNat ≠ 0 := fun hzero => hpos (UInt64.toNat_inj.1 hzero)
    have htwo : (2 : UInt64).toNat = 2 := rfl
    rw [UInt64.toNat_mul, htwo, Nat.mod_eq_of_lt hfits]
    omega
  · cases h

/-! ### The search -/

/-- The link of a block at a distance, if there is one. -/
def linkAt (n d : UInt64) : Except Fault (Option UInt64) :=
  if d < n then do
    let t ← minus n d
    if 1 ≤ t then do
      let r ← remainder (← minus n 1) d
      return if r = 0 then some t else none
    else return none
  else return none

/-- There is no link at the distance zero, by which no remainder can be taken. -/
theorem ne_zero_of_linkAt {n d t : UInt64} (h : linkAt n d = .ok (some t)) :
  d ≠ 0
  := by
  rintro rfl
  unfold linkAt at h
  split at h
  · next hn =>
    have hone : 1 ≤ n := UInt64.le_iff_toNat_le.2 (UInt64.lt_iff_toNat_lt.1 hn)
    simp [minus, remainder, hone, bind, Except.bind] at h
  · cases h

/-- The links that are found from a distance on, behind those that were found before. -/
def search (n d : UInt64) (found : List UInt64) : Except Fault (List UInt64) :=
  match _hlink : linkAt n d with
  | .error fault => .error fault
  | .ok none => .ok found
  | .ok (some t) =>
    match _hdouble : double? d with
    | none => .ok (found ++ [t])
    | some d' => search n d' (found ++ [t])
termination_by UInt64.size - d.toNat
decreasing_by
  have hlt := lt_of_double? (ne_zero_of_linkAt _hlink) _hdouble
  have hsize := d'.toNat_lt
  show UInt64.size - d'.toNat < UInt64.size - d.toNat
  simp only [UInt64.size]
  omega

/-- The links that are found for a block. -/
def searched (n : UInt64) : Except Fault (List UInt64) := if n ≤ 1 then .ok [] else search n 1 []

variable {n d : UInt64} {i : Nat}

/-! ### One step -/

/-- A distance is tried without a fault, and there is a link at it if it divides `n - 1`. -/
theorem linkAt_eq (h : 1 < n) (hd : d.toNat = 2 ^ i) :
  linkAt n d = .ok (if 2 ^ i ∣ n.toNat - 1 then some (n - d) else none)
  := by
  have hpower := Nat.two_pow_pos i
  have hpred : (n - 1).toNat = n.toNat - 1 := UInt64.toNat_sub_of_le n 1 (UInt64.le_of_lt h)
  have hmod : (n - 1) % d = 0 ↔ 2 ^ i ∣ n.toNat - 1 := by
    rw [← UInt64.toNat_inj, UInt64.toNat_mod, hd, hpred, UInt64.toNat_zero, Nat.dvd_iff_mod_eq_zero]
  unfold linkAt
  by_cases hlt : d < n
  · have hle : d ≤ n := UInt64.le_of_lt hlt
    have hpos : d ≠ 0 := by
      rintro rfl
      rw [UInt64.toNat_zero] at hd
      omega
    have hblock : 1 ≤ n - d := by
      rw [UInt64.lt_iff_toNat_lt] at hlt
      rw [UInt64.le_iff_toNat_le, UInt64.toNat_sub_of_le n d hle, UInt64.toNat_one]
      omega
    simp only [hlt, minus, hle, remainder, hpos, UInt64.le_of_lt h, hmod, bind, Except.bind,
      hblock, if_true, if_false]
    rfl
  · have hnot : ¬ 2 ^ i ∣ n.toNat - 1 := by
      intro hdvd
      apply hlt
      rw [UInt64.lt_iff_toNat_lt, hd]
      apply (lt_of_dvd_pred h hdvd).1
    rw [if_neg hlt, if_neg hnot]
    rfl

/-- A distance is doubled as long as there is a greater one. -/
theorem double?_distance (hi : i < 63) :
  double? (1 <<< UInt64.ofNat i) = some (1 <<< UInt64.ofNat (i + 1))
  := by
  have hnext : i + 1 < 64 := by omega
  have hpower : 2 ^ (i + 1) < UInt64.size := Nat.pow_lt_pow_right (by decide) hnext
  have htwo : (2 : UInt64).toNat = 2 := rfl
  have hi' : ((1 : UInt64) <<< UInt64.ofNat i).toNat = 2 ^ i := toNat_distance (by omega)
  rw [double?, hi', ← Nat.pow_succ', if_pos hpower]
  congr 1
  rw [← UInt64.toNat_inj, UInt64.toNat_mul, hi', htwo, ← Nat.pow_succ', Nat.mod_eq_of_lt hpower,
    toNat_distance hnext]

theorem double?_last :
  double? (1 <<< UInt64.ofNat 63) = none
  := by decide

/-! ### The whole search -/

theorem search_of_none (found : List UInt64) (hlink : linkAt n d = .ok none) :
  search n d found = .ok found
  := by
  rw [search]
  split
  · next fault hfault => cases hlink.symm.trans hfault
  · rfl
  · next t ht => cases hlink.symm.trans ht

theorem search_of_some (found : List UInt64) {t : UInt64} (hlink : linkAt n d = .ok (some t)) :
  search n d found
    = match double? d with
      | none => .ok (found ++ [t])
      | some d' => search n d' (found ++ [t])
  := by
  rw [search]
  split
  · next fault hfault => cases hlink.symm.trans hfault
  · next hnone => cases hlink.symm.trans hnone
  · next t' ht' =>
    cases hlink.symm.trans ht'
    split
    · next hdouble => rw [hdouble]
    · next d' hdouble => rw [hdouble]

/-- From a distance on, the links are found at all distances that divide `n - 1`, by induction on
how many these are. -/
theorem search_eq (h : 1 < n) (hi : i < 64) (found : List UInt64) :
  search n (1 <<< UInt64.ofNat i) found
    = .ok (found ++ (List.range' i (padicValNat 2 (n.toNat - 1) + 1 - i)).map
        fun j => n - 1 <<< UInt64.ofNat j)
  := by
  have hlink := linkAt_eq h (toNat_distance hi)
  generalize hm : padicValNat 2 (n.toNat - 1) + 1 - i = m
  induction m generalizing i found with
  | zero =>
    have hnot : ¬ 2 ^ i ∣ n.toNat - 1 := by
      rw [dvd_pred_iff h]
      omega
    rw [if_neg hnot] at hlink
    rw [search_of_none found hlink, List.range'_zero, List.map_nil, List.append_nil]
  | succ m ih =>
    have hdvd : 2 ^ i ∣ n.toNat - 1 := by
      rw [dvd_pred_iff h]
      omega
    rw [if_pos hdvd] at hlink
    rw [search_of_some found hlink, List.range'_succ, List.map_cons]
    by_cases hlast : i < 63
    · have hnext : i + 1 < 64 := by omega
      have hrest := ih hnext (found ++ [n - 1 <<< UInt64.ofNat i])
        (linkAt_eq h (toNat_distance hnext)) (by omega)
      rw [List.append_assoc] at hrest
      rw [double?_distance hlast]
      apply hrest
    · -- A distance that divides is one of the 64, so there is none left.
      obtain rfl : i = 63 := by omega
      have hvalue : padicValNat 2 (n.toNat - 1) < 64 := by
        apply (lt_of_dvd_pred h _).2
        apply pow_padicValNat_dvd
      obtain rfl : m = 0 := by omega
      rw [double?_last]
      rfl

/-- The search finds the links of a block, without a fault. -/
theorem searched_eq (n : UInt64) :
  searched n = .ok (targets n)
  := by
  by_cases h : 1 < n
  · rw [searched, if_neg (UInt64.not_le.2 h), targets_eq h, List.range_eq_range']
    apply search_eq (i := 0) h (by decide) []
  · have hle : n ≤ 1 := UInt64.not_lt.1 h
    rw [searched, if_pos hle, targets, if_pos hle]

/-! ### The links of a block -/

/-- The links are those at the distances `1, 2, 4, …, 2 ^ v`, nearest first, where `2 ^ v` is the
largest power of two that divides `n - 1`. -/
structure AreLinks (n : UInt64) (v : Nat) (links : List UInt64) : Prop where
  largest : ∀ i, 2 ^ i ∣ n.toNat - 1 ↔ i ≤ v
  numbers : links.map UInt64.toNat = (List.range (v + 1)).map fun i => n.toNat - 2 ^ i
  length : links.length = v + 1
  /-- The first one is the block before. -/
  nearest : links.head? = some (n - 1)
  decreasing : links.Pairwise (· > ·)
  between : ∀ t ∈ links, 1 ≤ t ∧ t ≤ n - 1

theorem areLinks_targets (h : 1 < n) :
  AreLinks n (padicValNat 2 (n.toNat - 1)) (targets n)
  := by
  have hone : 1 ≤ n := UInt64.le_of_lt h
  have hpred : (n - 1).toNat = n.toNat - 1 := UInt64.toNat_sub_of_le n 1 hone
  have hdvd : ∀ i, 2 ^ i ∣ n.toNat - 1 ↔ i ≤ padicValNat 2 (n.toNat - 1) := by
    intro i
    rw [dvd_pred_iff h, Nat.lt_succ_iff]
  have hmap : (targets n).map UInt64.toNat
      = (List.range (padicValNat 2 (n.toNat - 1) + 1)).map fun i => n.toNat - 2 ^ i := by
    rw [targets_eq h, List.map_map]
    apply List.map_congr_left
    intro i hi
    apply toNat_sub_distance h
    apply (dvd_pred_iff h i).2 (List.mem_range.1 hi)
  use hdvd, hmap
  · rw [targets_eq h, List.length_map, List.length_range]
  · rw [targets_eq h, List.range_succ_eq_map]
    rfl
  · -- The numbers decrease as the distances, which stay below `n`, increase.
    have hnumbers : ((targets n).map UInt64.toNat).Pairwise (· > ·) := by
      rw [hmap, List.pairwise_map]
      apply List.pairwise_lt_range.imp_of_mem
      intro i j _ hj hij
      have hpower : 2 ^ i < 2 ^ j := Nat.pow_lt_pow_right (by decide) hij
      have hlt := (lt_of_dvd_pred h ((dvd_pred_iff h j).2 (List.mem_range.1 hj))).1
      show n.toNat - 2 ^ j < n.toNat - 2 ^ i
      omega
    rw [List.pairwise_map] at hnumbers
    apply hnumbers.imp
    exact UInt64.lt_iff_toNat_lt.2
  · intro t ht
    obtain ⟨i, hn, hpos, -⟩ := mem_targets_iff.1 ht
    have hpower := Nat.two_pow_pos i
    rw [UInt64.le_iff_toNat_le, UInt64.le_iff_toNat_le, hpred]
    constructor
    · apply hpos
    · omega

/-- Of every block number: in the search for its links nothing wraps and no remainder is taken by
zero; a first block, or none, has no links, and every other block has exactly those at the powers of
two that divide the number before its own. -/
theorem searched_exact (n : UInt64) :
  searched n = .ok (targets n)
    ∧ (n ≤ 1 → targets n = [])
    ∧ (1 < n → ∃ v, AreLinks n v (targets n))
  := by
  constructor
  · apply searched_eq
  constructor
  · intro hle
    rw [targets, if_pos hle]
  · intro h
    use padicValNat 2 (n.toNat - 1)
    apply areLinks_targets h

/-- The block after the first `2 ^ 63` ones has a link at each of the 64 distances. -/
theorem searched_exact_farthest :
  searched 1 = .ok []
    ∧ ∃ links, searched 0x8000000000000001 = .ok links ∧ links.length = 64
      ∧ AreLinks 0x8000000000000001 63 links
  := by
  constructor
  · obtain ⟨hsearched, hnone, -⟩ := searched_exact 1
    rw [hsearched, hnone (by decide)]
  · obtain ⟨hsearched, -, hlinks⟩ := searched_exact 0x8000000000000001
    obtain ⟨v, hv⟩ := hlinks (by decide)
    have hpred : (0x8000000000000001 : UInt64).toNat - 1 = 2 ^ 63 := by decide
    have hle : 63 ≤ v := (hv.largest 63).1 (Dvd.intro 1 hpred.symm)
    have hge : ¬ 64 ≤ v := by
      rw [← hv.largest 64, hpred]
      decide
    obtain rfl : v = 63 := by omega
    use targets 0x8000000000000001, hsearched, hv.length

end LedgerTrust.SkipList
