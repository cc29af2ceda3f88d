import Mathlib.Data.Nat.Size
import LedgerTrust.Proofs.Proof.SkipList

/-!
# Shortest walks along skip links

A walk hops as far as a link goes without passing the goal. Links do not cross, so no walk to the
goal gets past the end of such a hop without going through it; from there it is no shorter than the
one of `SkipList.walk`, by induction. Hence `SkipList.path` is a shortest walk.

It is short, too. As long as the goal is far, each hop takes the lowest bit from the number of the
block, counted from zero, and so the distances grow; once it is nearer than the next such hop would
go, the distances shrink. So there are at most two hops for each bit.
-/

namespace LedgerTrust.SkipList

variable {goal n m : UInt64}

/-! ### Walks to a goal -/

/-- Along links numbers decrease. -/
theorem pairwise_of_links {w : List UInt64} (h : w.IsChain fun x y => y ∈ targets x) :
  w.Pairwise (· > ·)
  := by
  apply List.isChain_iff_pairwise.1
  apply h.imp
  intro x y
  apply lt_of_mem_targets

/-- A walk to the goal does not pass it. -/
theorem le_of_mem_walk {w : List UInt64} (h : w.IsChain fun x y => y ∈ targets x)
    (hend : w.getLast? = some goal) :
  ∀ m ∈ w, goal ≤ m
  := by
  obtain ⟨r, rfl⟩ := List.getLast?_eq_some_iff.1 hend
  obtain ⟨-, -, hbefore⟩ := List.pairwise_append.1 (pairwise_of_links h)
  intro m hm
  rcases List.mem_append.1 hm with hm | hm
  · apply UInt64.le_of_lt
    apply hbefore m hm goal (List.mem_singleton_self goal)
  · rw [List.mem_singleton.1 hm]
    apply UInt64.le_refl

/-- No walk to the goal gets past the end of the hop from a block without going through it, if it
starts between the two. -/
theorem hop_mem_of_links (hgoal : 1 ≤ goal) (h : goal < n) {m : UInt64} {w : List UInt64}
    (hlinks : (m :: w).IsChain fun x y => y ∈ targets x) (hend : (m :: w).getLast? = some goal)
    (hlow : hop goal n ≤ m) (hhigh : m ≤ n) :
  hop goal n ∈ m :: w
  := by
  obtain ⟨hlink, hle, hfar⟩ := hop_spec hgoal h
  induction w generalizing m with
  | nil =>
    obtain rfl := Option.some.inj hend
    apply List.mem_singleton.2
    apply UInt64.le_antisymm hlow hle
  | cons next w ih =>
    obtain hlt | heq := UInt64.le_iff_lt_or_eq.1 hlow
    · obtain ⟨hnext, hrest⟩ := List.isChain_cons_cons.1 hlinks
      have hgoalNext : goal ≤ next :=
        le_of_mem_walk hlinks hend next (List.mem_cons_of_mem m List.mem_cons_self)
      have hbefore : hop goal n ≤ next := by
        obtain hbetween | rfl := UInt64.le_iff_lt_or_eq.1 hhigh
        · apply le_of_mem_targets hlink hlt hbetween hnext
        · apply hfar next hnext hgoalNext
      have hnextLow : next ≤ n := UInt64.le_trans (UInt64.le_of_lt (lt_of_mem_targets hnext)) hhigh
      apply List.mem_cons_of_mem
      apply ih hrest _ hbefore hnextLow
      rwa [List.getLast?_cons_cons] at hend
    · rw [heq]
      apply List.mem_cons_self

/-- The walk of `SkipList.walk` is no longer than any other one to the goal. -/
theorem length_walk_le_of_links (hgoal : 1 ≤ goal) (h : goal ≤ n) {w : List UInt64}
    (hlinks : (n :: w).IsChain fun x y => y ∈ targets x) (hend : (n :: w).getLast? = some goal) :
  (walk goal n).length ≤ (n :: w).length
  := by
  induction n using walk.induct goal generalizing w with
  | case1 n hlt ih =>
    obtain ⟨-, hle, -⟩ := hop_spec hgoal hlt
    have hmem := hop_mem_of_links hgoal hlt hlinks hend (UInt64.le_of_lt (hop_lt hlt))
      (UInt64.le_refl n)
    obtain hsame | hmem := List.mem_cons.1 hmem
    · exact absurd (hop_lt hlt) (by rw [hsame]; apply UInt64.lt_irrefl)
    -- What follows the end of the hop is a walk from there.
    obtain ⟨before, after, rfl⟩ := List.append_of_mem hmem
    rw [← List.cons_append] at hlinks hend
    have hshort : (walk goal (hop goal n)).length ≤ (hop goal n :: after).length := by
      apply ih hle hlinks.right_of_append
      rwa [List.getLast?_append_of_ne_nil _ (List.cons_ne_nil _ _)] at hend
    rw [walk_of_lt hlt, List.length_cons, List.length_cons, List.length_append]
    omega
  | case2 n hlt =>
    rw [walk_of_not_lt hlt]
    apply Nat.succ_le_succ (Nat.zero_le w.length)

/-! ### Paths -/

theorem path_eq_nil_iff (first last : UInt64) :
  path first last = [] ↔ last < first ∨ first = 0
  := by
  have hcondition : (first > last || first < 1) = true ↔ last < first ∨ first = 0 := by
    rw [Bool.or_eq_true, decide_eq_true_eq, decide_eq_true_eq, UInt64.lt_one_iff]
  rw [← hcondition, path]
  split
  · next hnone => exact iff_of_true rfl hnone
  · next hsome =>
    apply iff_of_false _ hsome
    intro hnil
    have hhead := head?_walk first last
    rw [hnil] at hhead
    cases hhead

/-- Where there is a path, the blocks are in order. -/
theorem le_of_path_ne_nil {first last : UInt64} (h : path first last ≠ []) :
  1 ≤ first ∧ first ≤ last
  := by
  rw [ne_eq, path_eq_nil_iff, not_or, UInt64.not_lt] at h
  obtain ⟨hle, hzero⟩ := h
  exact ⟨UInt64.not_lt.1 (mt UInt64.lt_one_iff.1 hzero), hle⟩

/-- A path goes from the later block down to the earlier one, along links. -/
theorem path_spec {first last : UInt64} (hfirst : 1 ≤ first) (h : first ≤ last) :
  (path first last).head? = some last ∧ (path first last).getLast? = some first
    ∧ (path first last).IsChain fun x y => y ∈ targets x
  := by
  obtain ⟨hlinks, hend, -⟩ := walk_spec hfirst h
  rw [path_eq_walk hfirst h]
  use head?_walk first last, hend, hlinks

/-- A path is no longer than any other list of blocks with its ends that follows links. -/
theorem length_path_le_of_links {first last : UInt64} (hfirst : 1 ≤ first) (h : first ≤ last)
    {w : List UInt64} (hstart : w.head? = some last) (hend : w.getLast? = some first)
    (hlinks : w.IsChain fun x y => y ∈ targets x) :
  (path first last).length ≤ w.length
  := by
  obtain ⟨r, rfl⟩ := List.head?_eq_some_iff.1 hstart
  rw [path_eq_walk hfirst h]
  apply length_walk_le_of_links hfirst h hlinks hend

/-- There is no path exactly if the earlier block is zero or beyond the later one. Otherwise the
path starts at the later block, ends at the earlier one, goes down, follows links only, and no list
of blocks with these ends that follows links only is shorter. -/
theorem path_shortest (first last : UInt64) :
  (path first last = [] ↔ last < first ∨ first = 0)
    ∧ (1 ≤ first → first ≤ last →
      (path first last).head? = some last
        ∧ (path first last).getLast? = some first
        ∧ (path first last).Pairwise (· > ·)
        ∧ ((path first last).IsChain fun x y => y ∈ targets x)
        ∧ ∀ w : List UInt64, w.head? = some last → w.getLast? = some first →
          (w.IsChain fun x y => y ∈ targets x) → (path first last).length ≤ w.length)
  := by
  use path_eq_nil_iff first last
  intro hfirst h
  obtain ⟨hstart, hend, hlinks⟩ := path_spec hfirst h
  use hstart, hend, pairwise_of_links hlinks, hlinks
  intro w hstart' hend' hlinks'
  apply length_path_le_of_links hfirst h hstart' hend' hlinks'

/-- From the last number there is to the third one below it, the path hops over two and then over
one: from the block in between, the links at the distances two and four pass the goal. -/
theorem path_shortest_last :
  (1 : UInt64) ≤ 0xFFFFFFFFFFFFFFFC ∧ (0xFFFFFFFFFFFFFFFC : UInt64) ≤ 0xFFFFFFFFFFFFFFFF
    ∧ path 0xFFFFFFFFFFFFFFFC 0xFFFFFFFFFFFFFFFF
      = [0xFFFFFFFFFFFFFFFF, 0xFFFFFFFFFFFFFFFD, 0xFFFFFFFFFFFFFFFC]
    ∧ ∀ w : List UInt64, w.head? = some 0xFFFFFFFFFFFFFFFF →
      w.getLast? = some 0xFFFFFFFFFFFFFFFC → (w.IsChain fun x y => y ∈ targets x) → 3 ≤ w.length
  := by
  have hfirst : (1 : UInt64) ≤ 0xFFFFFFFFFFFFFFFC := by decide
  have h : (0xFFFFFFFFFFFFFFFC : UInt64) ≤ 0xFFFFFFFFFFFFFFFF := by decide
  have hpath : path 0xFFFFFFFFFFFFFFFC 0xFFFFFFFFFFFFFFFF
      = [0xFFFFFFFFFFFFFFFF, 0xFFFFFFFFFFFFFFFD, 0xFFFFFFFFFFFFFFFC] := by
    have hhop : hop 0xFFFFFFFFFFFFFFFC 0xFFFFFFFFFFFFFFFF = 0xFFFFFFFFFFFFFFFD := by
      decide +kernel
    have hhop' : hop 0xFFFFFFFFFFFFFFFC 0xFFFFFFFFFFFFFFFD = 0xFFFFFFFFFFFFFFFC := by
      decide +kernel
    rw [path_eq_walk hfirst h, walk_of_lt (by decide), hhop, walk_of_lt (by decide), hhop',
      walk_of_not_lt (by decide)]
  obtain ⟨-, -, -, -, hshortest⟩ :=
    (path_shortest 0xFFFFFFFFFFFFFFFC 0xFFFFFFFFFFFFFFFF).2 hfirst h
  rw [hpath] at hshortest
  use hfirst, h, hpath, hshortest

/-! ### The length of walks -/

/-- If `2 ^ i` is the largest distance at which a block has a link that does not pass the goal, the
walk hops over it. -/
theorem toNat_hop {i : Nat} (hgoal : 1 ≤ goal) (hdvd : 2 ^ i ∣ n.toNat - 1)
    (hroom : goal.toNat + 2 ^ i ≤ n.toNat)
    (hlargest : ∀ j, 2 ^ j ∣ n.toNat - 1 → goal.toNat + 2 ^ j ≤ n.toNat → j ≤ i) :
  goal < n ∧ (hop goal n).toNat = n.toNat - 2 ^ i
  := by
  have hpower := Nat.two_pow_pos i
  have hpos : 1 ≤ goal.toNat := UInt64.le_iff_toNat_le.1 hgoal
  have hlt : goal < n := by
    rw [UInt64.lt_iff_toNat_lt]
    omega
  obtain ⟨hlink, hle, hfar⟩ := hop_spec hgoal hlt
  rw [UInt64.le_iff_toNat_le] at hle
  obtain ⟨j, hj, -, hjdvd⟩ := mem_targets_iff.1 hlink
  have hji : 2 ^ j ≤ 2 ^ i := by
    apply Nat.pow_le_pow_right (by decide)
    apply hlargest j hjdvd
    omega
  obtain ⟨t, ht⟩ : ∃ t : UInt64, t.toNat = n.toNat - 2 ^ i :=
    ⟨_, toNat_sub_distance (UInt64.lt_of_le_of_lt hgoal hlt) hdvd⟩
  have hreach : hop goal n ≤ t := by
    apply hfar
    · apply mem_targets_iff.2
      use i
      rw [ht]
      exact ⟨by omega, by omega, hdvd⟩
    · rw [UInt64.le_iff_toNat_le, ht]
      omega
  rw [UInt64.le_iff_toNat_le, ht] at hreach
  constructor
  · apply hlt
  · omega

/-- If `2 ^ i` divides `n - 1` and the goal is nearer than that, there are at most `i` hops, as each
is shorter than the one before it. -/
theorem length_walk_le_of_near {i : Nat} (hgoal : 1 ≤ goal) (h : goal ≤ n)
    (hdvd : 2 ^ i ∣ n.toNat - 1) (hnear : n.toNat < goal.toNat + 2 ^ i) :
  (walk goal n).length ≤ i + 1
  := by
  induction i generalizing n with
  | zero =>
    have hhere : ¬ goal < n := by
      rw [UInt64.lt_iff_toNat_lt]
      omega
    rw [walk_of_not_lt hhere]
    apply Nat.le_refl
  | succ i ih =>
    have hpower : 2 ^ (i + 1) = 2 ^ i + 2 ^ i := Nat.two_pow_succ i
    have hdvd' : 2 ^ i ∣ n.toNat - 1 := Nat.dvd_trans (Nat.pow_dvd_pow 2 (Nat.le_succ i)) hdvd
    by_cases hnearer : n.toNat < goal.toNat + 2 ^ i
    · apply Nat.le_succ_of_le (ih h hdvd' hnearer)
    · obtain ⟨hlt, hhop⟩ : goal < n ∧ (hop goal n).toNat = n.toNat - 2 ^ i := by
        apply toNat_hop hgoal hdvd' (Nat.le_of_not_lt hnearer)
        intro j _ hj
        apply Nat.le_of_lt_succ
        apply (Nat.pow_lt_pow_iff_right (a := 2) (by decide)).1
        omega
      rw [walk_of_lt hlt, List.length_cons]
      apply Nat.succ_le_succ
      apply ih (hop_spec hgoal hlt).2.1
      · rw [hhop, Nat.sub_right_comm]
        apply Nat.dvd_sub hdvd' (Nat.dvd_refl _)
      · omega

/-- A multiple of `2 ^ i` that is not one of `2 ^ (i + 1)` becomes one if `2 ^ i` is taken away. -/
theorem dvd_sub_of_not_dvd {i k : Nat} (h : 2 ^ i ∣ k) (hodd : ¬ 2 ^ (i + 1) ∣ k) :
  2 ^ (i + 1) ∣ k - 2 ^ i
  := by
  obtain ⟨c, rfl⟩ := h
  obtain ⟨c, rfl | rfl⟩ := Nat.even_or_odd' c
  · apply absurd _ hodd
    rw [Nat.pow_succ, ← Nat.mul_assoc]
    apply Nat.dvd_mul_right
  · rw [Nat.mul_succ, Nat.add_sub_cancel, ← Nat.mul_assoc, ← Nat.pow_succ]
    apply Nat.dvd_mul_right

/-- If `2 ^ i` divides `n - 1`, which is below `2 ^ (i + d)`, there are at most `2 * d + i` hops:
until the goal is near, each one leads to a multiple of a higher power. -/
theorem length_walk_le_of_lt {i d : Nat} (hgoal : 1 ≤ goal) (h : goal ≤ n)
    (hdvd : 2 ^ i ∣ n.toNat - 1) (hlt : n.toNat - 1 < 2 ^ (i + d)) :
  (walk goal n).length ≤ 2 * d + i + 1
  := by
  have hpos : 1 ≤ goal.toNat := UInt64.le_iff_toNat_le.1 hgoal
  induction d generalizing i n with
  | zero =>
    have hnear : n.toNat < goal.toNat + 2 ^ i := by
      rw [Nat.add_zero] at hlt
      omega
    have hshort := length_walk_le_of_near hgoal h hdvd hnear
    omega
  | succ d ih =>
    have hlt' : n.toNat - 1 < 2 ^ (i + 1 + d) := by
      rwa [Nat.add_right_comm]
    by_cases hnear : n.toNat < goal.toNat + 2 ^ i
    · have hshort := length_walk_le_of_near hgoal h hdvd hnear
      omega
    by_cases heven : 2 ^ (i + 1) ∣ n.toNat - 1
    · have hshort := ih h heven hlt'
      omega
    · obtain ⟨hfar, hhop⟩ : goal < n ∧ (hop goal n).toNat = n.toNat - 2 ^ i := by
        apply toNat_hop hgoal hdvd (Nat.le_of_not_lt hnear)
        intro j hj _
        apply Nat.le_of_not_lt
        intro hij
        apply heven (Nat.dvd_trans (Nat.pow_dvd_pow 2 hij) hj)
      have hshort : (walk goal (hop goal n)).length ≤ 2 * d + (i + 1) + 1 := by
        apply ih (hop_spec hgoal hfar).2.1
        · rw [hhop, Nat.sub_right_comm]
          apply dvd_sub_of_not_dvd hdvd heven
        · omega
      rw [walk_of_lt hfar, List.length_cons]
      omega

/-- A path down from a block has at most two hops for each bit of the number before that of the
block, and so no path has more than 129 blocks. -/
theorem length_path_le (first last : UInt64) :
  (path first last).length ≤ 2 * Nat.size (last - 1).toNat + 1
    ∧ (path first last).length ≤ 129
  := by
  have hbits : Nat.size (last - 1).toNat ≤ 64 := Nat.size_le.2 (last - 1).toNat_lt
  have hshort : (path first last).length ≤ 2 * Nat.size (last - 1).toNat + 1 := by
    by_cases hnone : path first last = []
    · rw [hnone]
      apply Nat.zero_le
    · obtain ⟨hfirst, h⟩ := le_of_path_ne_nil hnone
      rw [path_eq_walk hfirst h]
      apply length_walk_le_of_lt (i := 0) hfirst h
      · apply Nat.one_dvd
      · have hpred : (last - 1).toNat = last.toNat - 1 :=
          UInt64.toNat_sub_of_le last 1 (UInt64.le_trans hfirst h)
        rw [Nat.zero_add, ← hpred]
        apply Nat.lt_size_self
  constructor
  · apply hshort
  · omega

end LedgerTrust.SkipList
