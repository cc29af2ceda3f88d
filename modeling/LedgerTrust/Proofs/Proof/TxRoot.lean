import LedgerTrust.Proofs.Proof.TxTree

/-!
# Roots of trees

The root of a tree commits to its leaves: of lists of one length, no two have trees with the same
root, unless two different pairs of digests that were hashed to build these trees have the same
digest. A level is determined by the level above it, as the last node of an odd level is combined
with itself and stands in its parent twice; and lists of one length reach the root at the same
level. The length has to be known: a last leaf without a neighbour may be repeated, and the root
stays what it is.
-/

namespace LedgerTrust.TxTree

variable {s : Scheme}

/-! ### What is hashed -/

/-- What is hashed to combine the nodes of a level is pairs of digests. -/
theorem length_of_mem_parentBytes {level : List Digest} {x : Bytes} (h : x ∈ parentBytes level) :
  x.length = 64
  := by
  induction level using parentBytes.induct with
  | case1 => cases h
  | case2 a =>
    rw [List.mem_singleton.1 h]
    apply Scheme.length_pairBytes
  | case3 a b r ih =>
    rcases List.mem_cons.1 h with rfl | h
    · apply Scheme.length_pairBytes
    · apply ih h

/-- What is hashed to build a tree. -/
def hashed (t : TxTree) : List Bytes := bytesOver t.scheme t.first t.rest

theorem length_of_mem_bytesOver {first : Digest} {rest : List Digest} {x : Bytes}
    (h : x ∈ bytesOver s first rest) :
  x.length = 64
  := by
  induction first, rest using rootOver.induct s with
  | case1 first =>
    rw [bytesOver] at h
    cases h
  | case2 first b r ih =>
    rw [bytesOver] at h
    rcases List.mem_append.1 h with h | h
    · apply length_of_mem_parentBytes h
    · apply ih h

/-! ### Levels below the same nodes -/

section Levels

variable {hashed : List Bytes}

/-- Levels of one length below the same nodes are the same, unless digests collide. -/
theorem parents_injective (hsep : s.Separates hashed) {level level' : List Digest}
    (hlevel : ∀ x ∈ parentBytes level, x ∈ hashed)
    (hlevel' : ∀ x ∈ parentBytes level', x ∈ hashed) (hlength : level.length = level'.length)
    (h : parents s level = parents s level') :
  level = level'
  := by
  induction level using parents.induct generalizing level' with
  | case1 => rw [List.eq_nil_of_length_eq_zero hlength.symm]
  | case2 a =>
    obtain ⟨a', rfl⟩ := List.length_eq_one_iff.1 hlength.symm
    obtain ⟨rfl, -⟩ := hsep.hashPair_injective (hlevel _ (List.mem_singleton_self _))
      (hlevel' _ (List.mem_singleton_self _)) (List.cons.inj h).1
    rfl
  | case3 a b r ih =>
    obtain _ | ⟨a', _ | ⟨b', r'⟩⟩ := level'
    · cases hlength
    · cases hlength
    obtain ⟨hnode, habove⟩ := List.cons.inj h
    obtain ⟨rfl, rfl⟩ := hsep.hashPair_injective (hlevel _ List.mem_cons_self)
      (hlevel' _ List.mem_cons_self) hnode
    have hrest : r = r' := by
      apply ih
      · intro x hx
        apply hlevel x (List.mem_cons_of_mem _ hx)
      · intro x hx
        apply hlevel' x (List.mem_cons_of_mem _ hx)
      · apply Nat.succ.inj (Nat.succ.inj hlength)
      · apply habove
    rw [hrest]

/-- Levels of one length below the same root are the same, unless digests collide. -/
theorem rootOver_injective (hsep : s.Separates hashed) {first first' : Digest}
    {rest rest' : List Digest} (htree : ∀ x ∈ bytesOver s first rest, x ∈ hashed)
    (htree' : ∀ x ∈ bytesOver s first' rest', x ∈ hashed) (hlength : rest.length = rest'.length)
    (h : rootOver s first rest = rootOver s first' rest') :
  first :: rest = first' :: rest'
  := by
  induction first, rest using rootOver.induct s generalizing first' rest' with
  | case1 first =>
    rw [List.eq_nil_of_length_eq_zero hlength.symm] at h ⊢
    rw [rootOver, rootOver] at h
    rw [h]
  | case2 first b r ih =>
    obtain _ | ⟨b', r'⟩ := rest'
    · cases hlength
    rw [bytesOver] at htree htree'
    rw [rootOver, rootOver] at h
    have hlengthAbove : (parents s r).length = (parents s r').length := by
      rw [length_parents, length_parents, Nat.succ.inj hlength]
    have habove : parents s (first :: b :: r) = parents s (first' :: b' :: r') := by
      apply ih
      · intro x hx
        apply htree x (List.mem_append_right _ hx)
      · intro x hx
        apply htree' x (List.mem_append_right _ hx)
      · apply hlengthAbove
      · apply h
    apply parents_injective hsep
    · intro x hx
      apply htree x (List.mem_append_left _ hx)
    · intro x hx
      apply htree' x (List.mem_append_left _ hx)
    · apply congrArg Nat.succ hlength
    · apply habove

end Levels

/-! ### The leaves below a root -/

/-- Over two lists of leaves of one length there are trees; and if these have the same root, the
lists have the same leaves in the same order, or two different pairs of digests that were hashed to
build the two trees have the same digest. -/
theorem leaves_eq_of_root_eq (s : Scheme) {leaves leaves' : List Digest} (hleaves : leaves ≠ [])
    (hlength : leaves.length = leaves'.length) :
  ∃ t t', build? s leaves = some t ∧ build? s leaves' = some t'
    ∧ (t.root = t'.root →
      leaves = leaves'
        ∨ ∃ x ∈ t.hashed ++ t'.hashed, ∃ y ∈ t.hashed ++ t'.hashed,
          x.length = 64 ∧ y.length = 64 ∧ x ≠ y ∧ s.digest x = s.digest y)
  := by
  obtain ⟨first, rest, rfl⟩ := List.exists_cons_of_ne_nil hleaves
  obtain _ | ⟨first', rest'⟩ := leaves'
  · cases hlength
  let t : TxTree := ⟨s, first, rest⟩
  let t' : TxTree := ⟨s, first', rest'⟩
  use t, t', rfl, rfl
  intro hroot
  obtain ⟨x, hx, y, hy, hne, hdigest⟩ | hsep := s.collision_or_separates (t.hashed ++ t'.hashed)
  · have hpairs : ∀ z ∈ t.hashed ++ t'.hashed, z.length = 64 := by
      intro z hz
      rcases List.mem_append.1 hz with hz | hz
      · apply length_of_mem_bytesOver hz
      · apply length_of_mem_bytesOver hz
    apply Or.inr
    use x, hx, y, hy, hpairs x hx, hpairs y hy, hne
  · apply Or.inl
    apply rootOver_injective hsep
    · intro x hx
      apply List.mem_append_left _ hx
    · intro x hx
      apply List.mem_append_right _ hx
    · apply Nat.succ.inj hlength
    · apply hroot

namespace Sample

/-- Three leaves. The last one has no neighbour. -/
def threeLeaves : List Digest := [leaf 0, leaf 1, leaf 2]

/-- The same leaves, but for the last one. -/
def alteredLeaves : List Digest := [leaf 0, leaf 1, leaf 3]

/-- What is hashed to build the tree over three leaves. -/
def threePairs (last : Digest) : List Bytes :=
  [Scheme.pairBytes (leaf 0) (leaf 1), Scheme.pairBytes last last,
    Scheme.pairBytes (Scheme.version1.hashPair (leaf 0) (leaf 1))
      (Scheme.version1.hashPair last last)]

theorem bytesOver_three (last : Digest) :
  bytesOver .version1 (leaf 0) [leaf 1, last] = threePairs last
  := by
  simp [bytesOver, parentBytes, parents, threePairs]

/-- What is hashed for the two trees has different digests, and the first pair is the same. -/
theorem separates_three :
  Scheme.version1.Separates (threePairs (leaf 2) ++ threePairs (leaf 3))
  := by
  have hnodup : ((threePairs (leaf 2) ++ (threePairs (leaf 3)).tail).map
      Scheme.version1.digest).Nodup := by
    decide +kernel
  apply Scheme.separates_of_nodup hnodup
  intro x hx
  rcases List.mem_append.1 hx with hx | hx
  · apply List.mem_append_left _ hx
  · rcases List.mem_cons.1 hx with rfl | hx
    · apply List.mem_append_left _ List.mem_cons_self
    · apply List.mem_append_right _ hx

end Sample

/-- Three leaves and the same ones with another last leaf have trees with different roots. -/
theorem leaves_eq_of_root_eq_three :
  Sample.threeLeaves ≠ [] ∧ Sample.threeLeaves.length = Sample.alteredLeaves.length
    ∧ ∃ t t', build? .version1 Sample.threeLeaves = some t
      ∧ build? .version1 Sample.alteredLeaves = some t' ∧ t.root ≠ t'.root
  := by
  have hleaves : Sample.threeLeaves ≠ [] := nofun
  have hlength : Sample.threeLeaves.length = Sample.alteredLeaves.length := rfl
  use hleaves, hlength
  obtain ⟨t, t', hbuild, hbuild', hroot⟩ := leaves_eq_of_root_eq .version1 hleaves hlength
  use t, t', hbuild, hbuild'
  intro heq
  obtain rfl := Option.some.inj hbuild
  obtain rfl := Option.some.inj hbuild'
  rw [hashed, hashed, Sample.bytesOver_three, Sample.bytesOver_three] at hroot
  obtain hsame | ⟨x, hx, y, hy, -, -, hne, hdigest⟩ := hroot heq
  · revert hsame
    decide
  · apply hne (Sample.separates_three x hx y hy hdigest)

/-! ### A last leaf that is repeated -/

theorem parents_append_last (level : List Digest) (last : Digest) (h : level.length % 2 = 0) :
  parents s (level ++ [last, last]) = parents s (level ++ [last])
  := by
  induction level using parents.induct with
  | case1 => rfl
  | case2 a => cases h
  | case3 a b r ih =>
    rw [List.length_cons, List.length_cons, Nat.add_assoc, Nat.add_mod_right] at h
    rw [List.cons_append, List.cons_append, List.cons_append, List.cons_append, parents_cons_cons,
      parents_cons_cons, ih h]

/-- A last leaf without a neighbour may be repeated: the root is the same. -/
theorem root_append_last (first second : Digest) (r : List Digest) (last : Digest)
    (h : r.length % 2 = 0) :
  rootOver s first (second :: r ++ [last, last]) = rootOver s first (second :: r ++ [last])
  := by
  rw [List.cons_append, List.cons_append, rootOver, rootOver, parents_append_last r last h]

end LedgerTrust.TxTree
