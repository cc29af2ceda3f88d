import Mathlib.Algebra.Group.Nat.Defs
import Mathlib.Data.Nat.Log
import Mathlib.Tactic.Use
import LedgerTrust.Proof.Inclusion
import LedgerTrust.Proof.TxTree
import LedgerTrust.Proofs.Ledger.Scheme

/-!
# Inclusion proofs and trees

An inclusion proof is folded level by level, and a tree is built level by level. The proof that a
tree gives for a leaf folds to the root; it gives one for every leaf under the order of index bits,
and where every sibling is added on the right for the first leaf only. Conversely, unless digests
collide, siblings that fold to the root start at a node of the tree that lies as many levels below
the root as there are siblings; with one sibling for each level this is a leaf: under the order of
index bits the one at the position of the proof, and where every sibling is added on the right the
first one.
-/

namespace LedgerTrust

namespace Scheme

variable {s : Scheme}

/-- What is hashed to fold siblings. -/
def foldBytes (s : Scheme) (position : Nat) (current : Digest) : List Digest → List Bytes
  | [] => []
  | sibling :: r =>
    let (left, right) := s.ordered position current sibling
    pairBytes left right :: s.foldBytes (position / 2) (s.hashPair left right) r

/-- The position from which siblings lead up: that of the proof under the order of index bits, and
the first one where every sibling is added on the right. -/
def place (s : Scheme) (position : Nat) : Nat :=
  match s.siblingOrder with
  | .indexBits => position
  | .runningFirst => 0

theorem place_le (s : Scheme) (position : Nat) :
  s.place position ≤ position
  := by
  unfold place
  cases s.siblingOrder with
  | runningFirst => exact Nat.zero_le position
  | indexBits => exact Nat.le_refl position

theorem place_half (s : Scheme) (position : Nat) :
  s.place (position / 2) = s.place position / 2
  := by
  unfold place
  cases s.siblingOrder with
  | runningFirst => exact (Nat.zero_div 2).symm
  | indexBits => rfl

/-- The running digest is on the right where the place is odd, and on the left where it is even. -/
theorem ordered_eq (s : Scheme) (position : Nat) (current sibling : Digest) :
  s.ordered position current sibling
    = if s.place position % 2 = 1 then (sibling, current) else (current, sibling)
  := by
  unfold ordered place
  cases s.siblingOrder with
  | runningFirst => rfl
  | indexBits => rfl

/-- One of the two digests to combine is the running one. -/
theorem ordered_cases (s : Scheme) (position : Nat) (current sibling : Digest) :
  s.ordered position current sibling = (current, sibling)
    ∨ s.ordered position current sibling = (sibling, current)
  := by
  rw [ordered_eq]
  by_cases h : s.place position % 2 = 1
  · exact .inr (if_pos h)
  · exact .inl (if_neg h)

theorem fold_append (position : Nat) (current : Digest) (lower upper : List Digest) :
  s.fold position current (lower ++ upper)
    = s.fold (position / 2 ^ lower.length) (s.fold position current lower) upper
  := by
  induction lower generalizing position current with
  | nil => simp [fold]
  | cons sibling r ih =>
    simp only [List.cons_append, fold, ih, List.length_cons, Nat.pow_succ', Nat.div_div_eq_div_mul]

theorem foldBytes_append (position : Nat) (current : Digest) (lower upper : List Digest) :
  s.foldBytes position current (lower ++ upper)
    = s.foldBytes position current lower
      ++ s.foldBytes (position / 2 ^ lower.length) (s.fold position current lower) upper
  := by
  induction lower generalizing position current with
  | nil => simp [fold, foldBytes]
  | cons sibling r ih =>
    simp only [List.cons_append, fold, foldBytes, ih, List.length_cons, Nat.pow_succ',
      Nat.div_div_eq_div_mul]

/-- What some siblings are folded to is the combination of two digests. -/
theorem exists_fold_eq_hashPair {siblings : List Digest} (h : siblings ≠ []) (position : Nat)
    (current : Digest) :
  ∃ left right, s.fold position current siblings = s.hashPair left right
    ∧ pairBytes left right ∈ s.foldBytes position current siblings
  := by
  induction siblings generalizing position current with
  | nil => exact absurd rfl h
  | cons sibling r ih =>
    cases r with
    | nil =>
      use (s.ordered position current sibling).1, (s.ordered position current sibling).2
      exact ⟨rfl, List.mem_singleton.2 rfl⟩
    | cons sibling' r =>
      simp only [fold, foldBytes] at ih ⊢
      obtain ⟨left, right, hfold, hmem⟩ := ih (List.cons_ne_nil sibling' r) (position / 2)
        (s.hashPair (s.ordered position current sibling).1
          (s.ordered position current sibling).2)
      exact ⟨left, right, hfold, List.mem_cons_of_mem _ hmem⟩

end Scheme

namespace TxTree

variable {s : Scheme}

/-! ### Levels -/

/-- What is hashed to combine the nodes of a level. -/
def parentBytes : List Digest → List Bytes
  | [] => []
  | [a] => [Scheme.pairBytes a a]
  | a :: b :: r => Scheme.pairBytes a b :: parentBytes r

/-- What is hashed to build the tree over a level, whose first node is given apart. -/
def bytesOver (s : Scheme) (first : Digest) (rest : List Digest) : List Bytes :=
  match rest with
  | [] => []
  | b :: r => parentBytes (first :: b :: r) ++ bytesOver s (s.hashPair first b) (parents s r)
termination_by rest.length
decreasing_by
  rw [length_parents]
  simp
  omega

/-- The number of levels above a level. -/
def height (level : List Digest) : Nat := Nat.clog 2 level.length

theorem height_singleton (a : Digest) :
  height [a] = 0
  := Nat.clog_one_right 2

theorem height_eq_succ (a b : Digest) (r : List Digest) :
  height (a :: b :: r) = height (parents s (a :: b :: r)) + 1
  := by
  rw [height, height, length_parents, Nat.clog_of_two_le (by decide) (by simp)]
  rfl

theorem parents_cons_cons (a b : Digest) (r : List Digest) :
  parents s (a :: b :: r) = s.hashPair a b :: parents s r
  := rfl

/-- A node above a level is the combination of two neighbours, or of the last node with itself. -/
theorem getElem?_parents {level : List Digest} {q : Nat} {x : Digest}
    (h : (parents s level)[q]? = some x) :
  ∃ y z, level[2 * q]? = some y
    ∧ (level[2 * q + 1]? = some z ∨ level.length = 2 * q + 1 ∧ z = y)
    ∧ x = s.hashPair y z ∧ Scheme.pairBytes y z ∈ parentBytes level
  := by
  induction level using parents.induct generalizing q with
  | case1 => simp [parents] at h
  | case2 a =>
    cases q with
    | zero =>
      cases h
      exact ⟨a, a, rfl, .inr ⟨rfl, rfl⟩, rfl, List.mem_singleton.2 rfl⟩
    | succ q => simp [parents] at h
  | case3 a b r ih =>
    cases q with
    | zero =>
      cases h
      exact ⟨a, b, rfl, .inl rfl, rfl, List.mem_cons_self⟩
    | succ q =>
      rw [parents_cons_cons, List.getElem?_cons_succ] at h
      obtain ⟨y, z, hy, hz, hx, hmem⟩ := ih h
      use y, z
      constructor
      · exact hy
      constructor
      · obtain hz | ⟨hlength, hz⟩ := hz
        · exact .inl hz
        · apply Or.inr
          simp only [List.length_cons]
          exact ⟨by omega, hz⟩
      constructor
      · exact hx
      · exact List.mem_cons_of_mem _ hmem

theorem exists_of_mem_parents {level : List Digest} {x : Digest} (h : x ∈ parents s level) :
  ∃ y ∈ level, ∃ z ∈ level, x = s.hashPair y z ∧ Scheme.pairBytes y z ∈ parentBytes level
  := by
  obtain ⟨q, hq⟩ := List.mem_iff_getElem?.1 h
  obtain ⟨y, z, hy, hz, hx, hmem⟩ := getElem?_parents hq
  use y, List.mem_of_getElem? hy, z
  constructor
  · obtain hz | ⟨-, rfl⟩ := hz
    · exact List.mem_of_getElem? hz
    · exact List.mem_of_getElem? hy
  · exact ⟨hx, hmem⟩

/-! ### Siblings that fold to the root -/

section Soundness

variable {hashed : List Bytes} {position : Nat} {d : Digest}

/-- If one sibling and others fold to a node above a level, they start in the level. -/
theorem mem_of_ordered_mem_parents (hsep : s.Separates hashed) {level : List Digest}
    (htree : ∀ x ∈ parentBytes level, x ∈ hashed) {sibling : Digest}
    (hpair : Scheme.pairBytes (s.ordered position d sibling).1 (s.ordered position d sibling).2
      ∈ hashed)
    (h : s.hashPair (s.ordered position d sibling).1 (s.ordered position d sibling).2
      ∈ parents s level) :
  d ∈ level
  := by
  obtain ⟨y, hy, z, hz, he, hmem⟩ := exists_of_mem_parents h
  obtain ⟨hleft, hright⟩ := hsep.hashPair_injective hpair (htree _ hmem) he
  obtain ho | ho := s.ordered_cases position d sibling
  · rw [ho] at hleft
    rwa [show d = y from hleft]
  · rw [ho] at hright
    rwa [show d = z from hright]

/-- The running digest stands in the level at the place from which siblings lead up. -/
theorem getElem?_of_ordered_parents (hsep : s.Separates hashed) {level : List Digest}
    (htree : ∀ x ∈ parentBytes level, x ∈ hashed) {sibling : Digest}
    (hpair : Scheme.pairBytes (s.ordered position d sibling).1 (s.ordered position d sibling).2
      ∈ hashed)
    (h : (parents s level)[s.place position / 2]?
      = some (s.hashPair (s.ordered position d sibling).1 (s.ordered position d sibling).2))
    (hplace : s.place position < level.length) :
  level[s.place position]? = some d
  := by
  obtain ⟨y, z, hy, hz, he, hmem⟩ := getElem?_parents h
  obtain ⟨hleft, hright⟩ := hsep.hashPair_injective hpair (htree _ hmem) he
  have ho := s.ordered_eq position d sibling
  by_cases hodd : s.place position % 2 = 1
  · have hnode : 2 * (s.place position / 2) + 1 = s.place position := by omega
    rw [ho, if_pos hodd] at hright
    rw [hnode] at hz
    obtain hz | ⟨hlength, -⟩ := hz
    · rw [hz, ← hright]
    · omega
  · have hnode : 2 * (s.place position / 2) = s.place position := by omega
    rw [ho, if_neg hodd] at hleft
    rw [hnode] at hy
    rw [hy, ← hleft]

/-- With one sibling for each level, what folds to the root starts at a leaf, and this is the one
at the place from which siblings lead up. -/
theorem leaf_of_fold_eq_root (hsep : s.Separates hashed) {first : Digest} {rest : List Digest}
    (htree : ∀ x ∈ bytesOver s first rest, x ∈ hashed) {siblings : List Digest}
    (hfold : ∀ x ∈ s.foldBytes position d siblings, x ∈ hashed)
    (hlength : siblings.length = height (first :: rest))
    (h : s.fold position d siblings = rootOver s first rest) :
  d ∈ first :: rest
    ∧ (s.place position < (first :: rest).length → (first :: rest)[s.place position]? = some d)
  := by
  induction first, rest using rootOver.induct s generalizing position d siblings with
  | case1 first =>
    rw [height_singleton, List.length_eq_zero_iff] at hlength
    subst hlength
    rw [rootOver, Scheme.fold] at h
    subst h
    constructor
    · exact List.mem_singleton.2 rfl
    · intro hplace
      rw [List.length_singleton, Nat.lt_one_iff] at hplace
      rw [hplace]
      rfl
  | case2 first b r ih =>
    rw [height_eq_succ (s := s)] at hlength
    obtain _ | ⟨sibling, siblings⟩ := siblings
    · simp at hlength
    rw [rootOver] at h
    rw [bytesOver] at htree
    rw [Scheme.fold] at h
    rw [Scheme.foldBytes] at hfold
    have hpair := hfold _ List.mem_cons_self
    have hlevel : ∀ x ∈ parentBytes (first :: b :: r), x ∈ hashed := fun x hx =>
      htree x (List.mem_append_left _ hx)
    obtain ⟨hmem, habove⟩ := ih (fun x hx => htree x (List.mem_append_right _ hx))
      (fun x hx => hfold x (List.mem_cons_of_mem _ hx)) (Nat.succ.inj hlength) h
    constructor
    · exact mem_of_ordered_mem_parents hsep hlevel hpair hmem
    · intro hplace
      apply getElem?_of_ordered_parents hsep hlevel hpair _ hplace
      rw [Scheme.place_half] at habove
      apply habove
      rw [← parents_cons_cons, length_parents]
      omega

/-- With fewer siblings than levels, what folds to the root is a combination of two digests. -/
theorem exists_hashPair_of_fold_eq_root (hsep : s.Separates hashed) {first : Digest}
    {rest : List Digest} (htree : ∀ x ∈ bytesOver s first rest, x ∈ hashed)
    {siblings : List Digest} (hfold : ∀ x ∈ s.foldBytes position d siblings, x ∈ hashed)
    (hlength : siblings.length < height (first :: rest))
    (h : s.fold position d siblings = rootOver s first rest) :
  ∃ left right, d = s.hashPair left right ∧ Scheme.pairBytes left right ∈ bytesOver s first rest
  := by
  induction first, rest using rootOver.induct s with
  | case1 first =>
    rw [height_singleton] at hlength
    exact absurd hlength (Nat.not_lt_zero _)
  | case2 first b r ih =>
    rw [height_eq_succ (s := s), parents_cons_cons] at hlength
    rw [rootOver] at h
    rw [bytesOver] at htree ⊢
    have habove : ∀ x ∈ bytesOver s (s.hashPair first b) (parents s r), x ∈ hashed := fun x hx =>
      htree x (List.mem_append_right _ hx)
    obtain hlt | heq := Nat.lt_or_eq_of_le (Nat.le_of_lt_succ hlength)
    · obtain ⟨left, right, hd, hmem⟩ := ih habove hlt h
      exact ⟨left, right, hd, List.mem_append_right _ hmem⟩
    · obtain ⟨hmem, -⟩ := leaf_of_fold_eq_root hsep habove hfold heq h
      rw [← parents_cons_cons] at hmem
      obtain ⟨left, -, right, -, hd, hpair⟩ := exists_of_mem_parents hmem
      exact ⟨left, right, hd, List.mem_append_left _ hpair⟩

/-- With more siblings than levels, what folds to the root passes through a leaf that is a
combination of two digests. -/
theorem exists_hashPair_mem_of_fold_eq_root (hsep : s.Separates hashed) {first : Digest}
    {rest : List Digest} (htree : ∀ x ∈ bytesOver s first rest, x ∈ hashed)
    {siblings : List Digest} (hfold : ∀ x ∈ s.foldBytes position d siblings, x ∈ hashed)
    (hlength : height (first :: rest) < siblings.length)
    (h : s.fold position d siblings = rootOver s first rest) :
  ∃ left right, s.hashPair left right ∈ first :: rest
    ∧ Scheme.pairBytes left right ∈ s.foldBytes position d siblings
  := by
  let below := siblings.take (siblings.length - height (first :: rest))
  let above := siblings.drop (siblings.length - height (first :: rest))
  have hsplit : siblings = below ++ above := (List.take_append_drop _ siblings).symm
  have habove : above.length = height (first :: rest) := by
    rw [List.length_drop]
    omega
  have hbelow : below ≠ [] := by
    rw [← List.length_pos_iff, List.length_take]
    omega
  rw [hsplit, Scheme.fold_append] at h
  rw [hsplit, Scheme.foldBytes_append] at hfold ⊢
  obtain ⟨left, right, hpair, hmem⟩ := Scheme.exists_fold_eq_hashPair hbelow position d
  obtain ⟨hleaf, -⟩ := leaf_of_fold_eq_root hsep htree
    (fun x hx => hfold x (List.mem_append_right _ hx)) habove h
  use left, right
  constructor
  · rwa [← hpair]
  · exact List.mem_append_left _ hmem

end Soundness

/-! ### The proofs of a tree -/

/-- The leaves that have a proof: under the order that adds every sibling on the right, only the
first one. -/
def HasProof (s : Scheme) (index : Nat) : Prop := s.siblingOrder = .indexBits ∨ index = 0

theorem HasProof.half {index : Nat} (h : HasProof s index) :
  HasProof s (index / 2)
  := by
  obtain h | h := h
  · exact .inl h
  · apply Or.inr
    rw [h]

/-- No leaf with a proof stands on the right of a sibling that is added on the right. -/
theorem HasProof.not_refused {index : Nat} (h : HasProof s index) :
  ¬ (index % 2 = 1 ∧ s.siblingOrder = .runningFirst)
  := by
  rintro ⟨hodd, hrunning⟩
  obtain h | h := h
  · rw [hrunning] at h
    cases h
  · subst h
    cases hodd

theorem ordered_zero (s : Scheme) (current sibling : Digest) :
  s.ordered 0 current sibling = (current, sibling)
  := by
  unfold Scheme.ordered
  cases s.siblingOrder with
  | runningFirst => rfl
  | indexBits => rfl

theorem ordered_add_two (s : Scheme) (index : Nat) (current sibling : Digest) :
  s.ordered (index + 2) current sibling = s.ordered index current sibling
  := by
  simp [Scheme.ordered]

theorem partner_add_two (index : Nat) :
  partner (index + 2) = partner index + 2
  := by
  unfold partner
  rw [Nat.add_mod_right]
  split
  · rfl
  · omega

/-- The sibling of a node is the one that it is combined with. -/
theorem exists_sibling {level : List Digest} {index : Nat} {d : Digest} (hs : HasProof s index)
    (h : level[index]? = some d) :
  ∃ sibling, (level[partner index]? <|> level[index]?) = some sibling
    ∧ (parents s level)[index / 2]? = some
        (s.hashPair (s.ordered index d sibling).1 (s.ordered index d sibling).2)
  := by
  induction level using parents.induct generalizing index with
  | case1 => cases h
  | case2 a =>
    cases index with
    | zero =>
      cases h
      use d
      rw [ordered_zero]
      exact ⟨rfl, rfl⟩
    | succ index => simp at h
  | case3 a b r ih =>
    cases index with
    | zero =>
      cases h
      use b
      rw [ordered_zero]
      exact ⟨rfl, rfl⟩
    | succ index =>
      have hbits : s.siblingOrder = .indexBits := hs.resolve_right (Nat.succ_ne_zero index)
      cases index with
      | zero =>
        cases h
        use a
        rw [Scheme.ordered, hbits]
        exact ⟨rfl, rfl⟩
      | succ index =>
        obtain ⟨sibling, hsibling, hparent⟩ := ih (.inl hbits) h
        use sibling
        rw [ordered_add_two, partner_add_two, show (index + 1 + 1) / 2 = index / 2 + 1 by omega]
        exact ⟨hsibling, hparent⟩

theorem siblings?_cons_cons {index : Nat} (hs : HasProof s index) (a b : Digest)
    (r : List Digest) :
  siblings? s index (a :: b :: r)
    = ((a :: b :: r)[partner index]? <|> (a :: b :: r)[index]?).bind fun sibling =>
        (siblings? s (index / 2) (parents s (a :: b :: r))).map (sibling :: ·)
  := by
  rw [siblings?]
  simp only [if_neg hs.not_refused, bind, pure, Option.map_eq_bind]
  rfl

/-- The siblings that a tree gives for a leaf fold to the root. -/
theorem exists_siblings? {first : Digest} {rest : List Digest} {index : Nat} {d : Digest}
    (hs : HasProof s index) (h : (first :: rest)[index]? = some d) :
  ∃ siblings, siblings? s index (first :: rest) = some siblings
    ∧ siblings.length = height (first :: rest)
    ∧ s.fold index d siblings = rootOver s first rest
  := by
  induction first, rest using rootOver.induct s generalizing index d with
  | case1 first =>
    have hzero : index = 0 := by
      have hlt := (List.getElem?_eq_some_iff.1 h).1
      simpa using hlt
    subst hzero
    cases h
    use []
    rw [siblings?, rootOver, height_singleton]
    exact ⟨rfl, rfl, rfl⟩
  | case2 first b r ih =>
    obtain ⟨sibling, hsibling, hparent⟩ := exists_sibling hs h
    obtain ⟨above, habove, hlength, hfold⟩ := ih hs.half hparent
    use sibling :: above
    rw [siblings?_cons_cons hs, hsibling, parents_cons_cons, Option.bind_some, habove, rootOver,
      height_eq_succ (s := s), parents_cons_cons, List.length_cons, hlength]
    exact ⟨rfl, rfl, hfold⟩

/-- A tree has a proof of each leaf that has one, and it leads from this leaf to the root. -/
theorem exists_proof? (t : TxTree) {index : Nat} {leaf : Digest} (hs : HasProof t.scheme index)
    (h : t.leaves[index]? = some leaf) :
  ∃ siblings, t.proof? index = some ⟨leaf :: siblings⟩
    ∧ siblings.length = height t.leaves
    ∧ t.scheme.fold index leaf siblings = t.root
  := by
  obtain ⟨siblings, hsiblings, hlength, hfold⟩ := exists_siblings? hs h
  use siblings
  rw [proof?, h]
  refine ⟨?_, hlength, hfold⟩
  rw [leaves, hsiblings]
  rfl

/-- On the way up from a leaf that has siblings at every level, no node stands on the right of a
sibling that is added on the right; so under that order the leaf is the first one. -/
theorem hasProof_of_siblings? {first : Digest} {rest : List Digest} {index : Nat}
    {siblings : List Digest} (hindex : index < (first :: rest).length)
    (h : siblings? s index (first :: rest) = some siblings) :
  HasProof s index
  := by
  induction first, rest using rootOver.induct s generalizing index siblings with
  | case1 first =>
    apply Or.inr
    rwa [List.length_singleton, Nat.lt_one_iff] at hindex
  | case2 first b r ih =>
    rw [siblings?] at h
    split at h
    · cases h
    next hkept =>
    simp only [bind, Option.bind_eq_some_iff] at h
    obtain ⟨sibling, -, above, habove, -⟩ := h
    have hhalf : HasProof s (index / 2) := by
      apply ih _ habove
      rw [← parents_cons_cons, length_parents]
      omega
    cases horder : s.siblingOrder with
    | indexBits => exact .inl horder
    | runningFirst =>
      have heven : ¬ index % 2 = 1 := fun hodd => hkept ⟨hodd, horder⟩
      obtain hbits | hzero := hhalf
      · rw [horder] at hbits
        cases hbits
      · apply Or.inr
        omega

/-- A tree has a proof of an index exactly if this is the index of a leaf that has one. -/
theorem isSome_proof?_iff (t : TxTree) (index : Nat) :
  (t.proof? index).isSome = true ↔ index < t.leaves.length ∧ HasProof t.scheme index
  := by
  constructor
  · intro h
    obtain ⟨p, hp⟩ := Option.isSome_iff_exists.1 h
    simp only [proof?, bind, Option.bind_eq_some_iff] at hp
    obtain ⟨leaf, hleaf, siblings, hsiblings, -⟩ := hp
    have hindex := (List.getElem?_eq_some_iff.1 hleaf).1
    exact ⟨hindex, hasProof_of_siblings? hindex hsiblings⟩
  · rintro ⟨hindex, hs⟩
    obtain ⟨siblings, hproof, -⟩ := t.exists_proof? hs (List.getElem?_eq_getElem hindex)
    rw [hproof]
    rfl

/-- Over any leaves there is a tree, and of every index: the tree has a proof of it exactly if there
is a leaf at the index and, where every sibling is added on the right, this is the first leaf. The
proof is this leaf followed by one sibling for each level, and folds to the root. -/
theorem proof?_build (s : Scheme) {leaves : List Digest} (hleaves : leaves ≠ []) :
  ∃ t, build? s leaves = some t ∧ t.leaves = leaves
    ∧ ∀ index,
      ((t.proof? index).isSome = true
          ↔ index < leaves.length ∧ (s.siblingOrder = .indexBits ∨ index = 0))
        ∧ ∀ p, t.proof? index = some p →
          ∃ leaf siblings, leaves[index]? = some leaf ∧ p.hashes = leaf :: siblings
            ∧ p.hashes.length = 1 + Nat.clog 2 leaves.length
            ∧ s.fold index leaf siblings = t.root
  := by
  obtain ⟨first, rest, rfl⟩ := List.exists_cons_of_ne_nil hleaves
  let t : TxTree := ⟨s, first, rest⟩
  use t, rfl, rfl
  intro index
  have hiff := t.isSome_proof?_iff index
  use hiff
  intro p hp
  obtain ⟨hindex, hs⟩ := hiff.1 (Option.isSome_iff_exists.2 ⟨p, hp⟩)
  have hleaf := List.getElem?_eq_getElem hindex
  obtain ⟨siblings, hproof, hlength, hfold⟩ := t.exists_proof? hs hleaf
  obtain rfl := Option.some.inj (hproof.symm.trans hp)
  use t.leaves[index], siblings, hleaf, rfl
  constructor
  · rw [List.length_cons, hlength, Nat.add_comm]
    rfl
  · exact hfold

namespace Sample

/-- Five leaves. -/
def leaves : List Digest :=
  [0, 1, 2, 3, 4].map fun byte => ⟨List.replicate 32 byte, List.length_replicate⟩

/-- A leaf that is the same byte throughout. -/
def leaf (byte : UInt8) : Digest := ⟨List.replicate 32 byte, List.length_replicate⟩

/-- The scheme of the first version, with the order of index bits. -/
def byIndex : Scheme := { Scheme.version1 with siblingOrder := .indexBits }

end Sample

/-- Over five leaves, the last one stands alone at two levels. It has a proof under the order of
index bits, and none where every sibling is added on the right. -/
theorem proof?_build_five :
  Sample.leaves ≠ []
    ∧ (∃ t p, build? Sample.byIndex Sample.leaves = some t ∧ t.proof? 4 = some p
      ∧ p.hashes.length = 4)
    ∧ ∃ t, build? .version1 Sample.leaves = some t ∧ t.proof? 4 = none
  := by
  have hleaves : Sample.leaves ≠ [] := nofun
  have hclog : Nat.clog 2 Sample.leaves.length = 3 := by decide
  obtain ⟨t, hbuild, -, hproof⟩ := proof?_build Sample.byIndex hleaves
  obtain ⟨t', hbuild', -, hproof'⟩ := proof?_build .version1 hleaves
  use hleaves
  constructor
  · obtain ⟨hiff, hp⟩ := hproof 4
    obtain ⟨p, hsome⟩ := Option.isSome_iff_exists.1 (hiff.2 ⟨by decide, .inl rfl⟩)
    obtain ⟨leaf, siblings, -, -, hlength, -⟩ := hp p hsome
    rw [hclog] at hlength
    exact ⟨t, p, hbuild, hsome, hlength⟩
  · use t', hbuild'
    apply Option.not_isSome_iff_eq_none.1
    intro hsome
    obtain ⟨-, horder | hzero⟩ := (hproof' 4).1.1 hsome
    · cases horder
    · cases hzero

end TxTree

end LedgerTrust
