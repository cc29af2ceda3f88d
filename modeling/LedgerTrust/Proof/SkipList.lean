/-!
# Skip links between block numbers

Block `n` links to block `n - 2 ^ i` whenever `2 ^ i` divides `n - 1` and is below `n`, nearest
first; the first block links to nothing. `SkipList.path` walks from a block down to an earlier
one, each time to the farthest linked block that is not beyond the goal.
-/

namespace LedgerTrust.SkipList

/-- The powers of two below `2 ^ 64`. -/
def distances : List UInt64 := (List.range 64).map fun i => 1 <<< UInt64.ofNat i

/-- The numbers of the blocks that a block links to. -/
def targets (n : UInt64) : List UInt64 :=
  if n ≤ 1 then []
  else (distances.takeWhile fun d => d < n && (n - 1) % d == 0).map (n - ·)

/-- The farthest linked block that is not beyond the goal; the block before this one if there
is none. -/
def hop (goal n : UInt64) : UInt64 :=
  ((targets n).filter (goal ≤ ·)).min?.getD (n - 1)

theorem pos_of_mem_distances {d : UInt64} (h : d ∈ distances) :
  0 < d
  := by
  have hall : distances.all (fun d => decide (0 < d)) = true := by decide
  exact of_decide_eq_true (List.all_eq_true.1 hall d h)

/-- Links lead to earlier blocks. -/
theorem lt_of_mem_targets {n t : UInt64} (h : t ∈ targets n) :
  t < n
  := by
  unfold targets at h
  split at h
  · cases h
  · obtain ⟨d, hd, rfl⟩ := List.mem_map.1 h
    have hpos := pos_of_mem_distances ((List.takeWhile_sublist _).subset hd)
    have hlt := List.all_eq_true.1 List.all_takeWhile d hd
    simp only [Bool.and_eq_true, decide_eq_true_eq] at hlt
    rw [UInt64.lt_iff_toNat_lt, UInt64.toNat_sub_of_le n d (UInt64.le_of_lt hlt.1)]
    have h₁ := UInt64.lt_iff_toNat_lt.1 hpos
    have h₂ := UInt64.lt_iff_toNat_lt.1 hlt.1
    simp at h₁
    omega

/-- From a block beyond the goal the walk goes down. -/
theorem hop_lt {goal n : UInt64} (h : goal < n) :
  hop goal n < n
  := by
  unfold hop
  cases hm : ((targets n).filter (goal ≤ ·)).min? with
  | some t =>
    exact lt_of_mem_targets (List.mem_filter.1 (List.min?_mem hm)).1
  | none =>
    have hn : 0 < n.toNat := Nat.lt_of_le_of_lt (Nat.zero_le _) (UInt64.lt_iff_toNat_lt.1 h)
    have h1 : (1 : UInt64) ≤ n := UInt64.le_iff_toNat_le.2 hn
    rw [Option.getD_none, UInt64.lt_iff_toNat_lt, UInt64.toNat_sub_of_le n 1 h1]
    simp
    omega

/-- The blocks from `n` down to the goal, both included. -/
def walk (goal n : UInt64) : List UInt64 :=
  if _h : goal < n then n :: walk goal (hop goal n) else [n]
termination_by n.toNat
decreasing_by exact UInt64.lt_iff_toNat_lt.1 (hop_lt _h)

/-- The blocks of a shortest walk along links from `last` down to `first`; there is none
if `first` is zero or beyond `last`. -/
def path (first last : UInt64) : List UInt64 :=
  if first > last || first < 1 then [] else walk first last

end LedgerTrust.SkipList
