import Mathlib.Data.List.Chain
import Mathlib.Tactic.Use
import LedgerTrust.Proofs.Proof.SkipLink

/-!
# Walks along skip links

From a block beyond the goal there is always a link that does not pass the goal, since a block
links to the one before it. So `SkipList.walk` follows links only, stays between its ends, and
arrives at the goal.
-/

namespace LedgerTrust.SkipList

variable {goal n m : UInt64}

/-! ### Links -/

/-- A block beyond the first links to the one before it. -/
theorem pred_mem_targets (h : 1 < n) :
  n - 1 ∈ targets n
  := by
  have hn : 1 < n.toNat := UInt64.lt_iff_toNat_lt.1 h
  have hpred : (n - 1).toNat = n.toNat - 1 := UInt64.toNat_sub_of_le n 1 (UInt64.le_of_lt h)
  apply mem_targets_iff.2
  use 0
  rw [hpred]
  exact ⟨by omega, by omega, Nat.one_dvd _⟩

/-- From a block beyond the goal the walk follows the farthest link that does not pass the goal. -/
theorem hop_spec (hgoal : 1 ≤ goal) (h : goal < n) :
  hop goal n ∈ targets n ∧ goal ≤ hop goal n ∧ ∀ t ∈ targets n, goal ≤ t → hop goal n ≤ t
  := by
  have hn : 1 < n := UInt64.lt_of_le_of_lt hgoal h
  have hpred : goal ≤ n - 1 := by
    rw [UInt64.le_iff_toNat_le, UInt64.toNat_sub_of_le n 1 (UInt64.le_of_lt hn)]
    exact Nat.le_sub_one_of_lt (UInt64.lt_iff_toNat_lt.1 h)
  have hmem : n - 1 ∈ (targets n).filter (goal ≤ ·) :=
    List.mem_filter.2 ⟨pred_mem_targets hn, decide_eq_true hpred⟩
  unfold hop
  cases hmin : ((targets n).filter (goal ≤ ·)).min? with
  | none =>
    rw [List.min?_eq_none_iff] at hmin
    rw [hmin] at hmem
    cases hmem
  | some t =>
    obtain ⟨hthere, hleast⟩ := List.min?_eq_some_iff.1 hmin
    obtain ⟨ht, hle⟩ := List.mem_filter.1 hthere
    use ht, of_decide_eq_true hle
    intro t' ht' hle'
    apply hleast t' (List.mem_filter.2 ⟨ht', decide_eq_true hle'⟩)

/-! ### Walks -/

theorem walk_of_lt (h : goal < n) :
  walk goal n = n :: walk goal (hop goal n)
  := by rw [walk, dif_pos h]

theorem walk_of_not_lt (h : ¬ goal < n) :
  walk goal n = [n]
  := by rw [walk, dif_neg h]

theorem head?_walk (goal n : UInt64) :
  (walk goal n).head? = some n
  := by
  by_cases h : goal < n
  · rw [walk_of_lt h]
    rfl
  · rw [walk_of_not_lt h]
    rfl

/-- What a walk goes through: it starts at a block, follows links down and ends at the goal. -/
theorem walk_spec (hgoal : 1 ≤ goal) (h : goal ≤ n) :
  (walk goal n).IsChain (fun x y => y ∈ targets x)
    ∧ (walk goal n).getLast? = some goal
    ∧ ∀ m ∈ walk goal n, goal ≤ m ∧ m ≤ n
  := by
  induction n using walk.induct goal with
  | case1 n hlt ih =>
    obtain ⟨hlink, hle, -⟩ := hop_spec hgoal hlt
    obtain ⟨hchain, hlast, hmem⟩ := ih hle
    have hhead := head?_walk goal (hop goal n)
    rw [walk_of_lt hlt]
    cases hw : walk goal (hop goal n) with
    | nil =>
      rw [hw] at hhead
      cases hhead
    | cons m r =>
      rw [hw] at hchain hlast hmem hhead
      cases hhead
      constructor
      · exact .cons_cons hlink hchain
      constructor
      · rw [List.getLast?_cons_cons]
        exact hlast
      · intro m hm
        rcases List.mem_cons.1 hm with rfl | hm
        · exact ⟨h, UInt64.le_refl m⟩
        · obtain ⟨hlow, hhigh⟩ := hmem m hm
          exact ⟨hlow, UInt64.le_trans hhigh (UInt64.le_of_lt (hop_lt hlt))⟩
  | case2 n hlt =>
    have heq : goal = n := UInt64.le_antisymm h (UInt64.not_lt.1 hlt)
    subst heq
    rw [walk_of_not_lt hlt]
    constructor
    · exact .singleton _
    constructor
    · rfl
    · intro m hm
      cases List.mem_singleton.1 hm
      exact ⟨UInt64.le_refl _, UInt64.le_refl _⟩

theorem path_eq_walk (hfirst : 1 ≤ goal) (h : goal ≤ n) :
  path goal n = walk goal n
  := by
  rw [path, if_neg]
  simp [UInt64.not_lt.2 h, UInt64.not_lt.2 hfirst]

end LedgerTrust.SkipList
