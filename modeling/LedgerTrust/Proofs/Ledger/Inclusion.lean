import LedgerTrust.Proofs.Ledger.Leaf
import LedgerTrust.Proofs.Proof.TxTree

/-!
# Inclusion in a block

The header of a block commits to its transactions by an outcome for each and by the root of the
tree over their leaves. The proof that this tree gives for a leaf is right; and under JSON an
inclusion proof that is right, of whatever length, proves one transaction of the block, unless
digests collide: a leaf cannot pass for a node above the leaves, nor such a node for a leaf. Under
the order of index bits this is the transaction at the index of the receipt; where every sibling
is added on the right it is the first one.
-/

namespace LedgerTrust

/-- A block: its header and its transactions. -/
structure Block where
  header : BlockHeader
  envelopes : List Envelope

namespace Block

/-- The leaves of the transactions. -/
def leaves (s : Scheme) (b : Block) : List Digest :=
  List.zipWith (leafHash s) b.envelopes b.header.validation

/-- The tree over the transactions, if there are some. -/
def tree? (s : Scheme) (b : Block) : Option TxTree := TxTree.build? s (b.leaves s)

/-- The header gives an outcome of each transaction and the root of their tree. -/
def Commits (s : Scheme) (b : Block) : Prop :=
  b.header.validation.length = b.envelopes.length
    ∧ (b.tree? s).map TxTree.root = some b.header.txRoot

/-- What is hashed to build the tree. -/
def hashed (s : Scheme) (b : Block) : List Bytes :=
  List.zipWith (leafBytes s) b.envelopes b.header.validation
    ++ match b.leaves s with
      | [] => []
      | first :: rest => TxTree.bytesOver s first rest

end Block

/-! ### Proofs that are right -/

namespace Block

variable {s : Scheme} {b : Block}

theorem getElem?_leaves {i : Nat} {d : Digest} (h : (b.leaves s)[i]? = some d) :
  ∃ e info, b.envelopes[i]? = some e ∧ b.header.validation[i]? = some info
    ∧ d = leafHash s e info ∧ leafBytes s e info ∈ b.hashed s
  := by
  rw [leaves, List.getElem?_zipWith_eq_some] at h
  obtain ⟨e, info, he, hinfo, rfl⟩ := h
  use e, info
  refine ⟨he, hinfo, rfl, ?_⟩
  apply List.mem_append_left
  apply List.mem_of_getElem? (i := i)
  rw [List.getElem?_zipWith_eq_some]
  exact ⟨e, info, he, hinfo, rfl⟩

/-- A header that commits to its transactions gives the root over a first leaf and others. -/
theorem Commits.exists_leaves (hb : b.Commits s) :
  ∃ first rest, b.leaves s = first :: rest
    ∧ TxTree.rootOver s first rest = b.header.txRoot
  := by
  have hroot := hb.2
  rw [tree?] at hroot
  cases hleaves : b.leaves s with
  | nil =>
    rw [hleaves] at hroot
    cases hroot
  | cons first rest =>
    rw [hleaves] at hroot
    exact ⟨first, rest, rfl, Option.some.inj hroot⟩

theorem Commits.length_leaves (hb : b.Commits s) :
  (b.leaves s).length = b.header.validation.length
  := by
  rw [leaves, List.length_zipWith, hb.1, Nat.min_self]

/-- What is hashed to verify an inclusion proof. -/
def inclusionBytes (s : Scheme) (p : InclusionProof) (r : TxReceipt) (e : Envelope) :
    List Bytes :=
  match r.validation? with
  | none => []
  | some info =>
    leafBytes s e info :: s.foldBytes r.index.toNat (leafHash s e info) p.hashes.tail

/-- An inclusion proof that is right starts with the leaf and folds to the root. -/
theorem verify_eq_ok_true {p : InclusionProof} {r : TxReceipt} {e : Envelope}
    (h : p.verify s r e = .ok true) :
  ∃ info siblings, r.header.validation[r.index.toNat]? = some info
    ∧ p.hashes = leafHash s e info :: siblings
    ∧ s.fold r.index.toNat (leafHash s e info) siblings = r.header.txRoot
  := by
  unfold InclusionProof.verify at h
  split at h
  · cases h
  · cases h
  · next info first siblings hinfo hhashes =>
    use info, siblings
    dsimp only at h
    split at h
    · next hfirst =>
      rw [hhashes, hfirst]
      exact ⟨hinfo, rfl, of_decide_eq_true (Except.ok.inj h)⟩
    · cases h

/-- An inclusion proof that is right, of whatever length, proves the transaction at the place from
which its siblings lead up, with the outcome that is recorded at its index, unless digests
collide. -/
theorem Commits.getElem?_of_verify (hb : b.Commits s) (hs : s.encoding = .json)
    {hashed : List Bytes} (hsep : s.Separates hashed) (hblock : ∀ x ∈ b.hashed s, x ∈ hashed)
    {p : InclusionProof} {i : UInt64} {e : Envelope}
    (hproof : ∀ x ∈ inclusionBytes s p ⟨b.header, i⟩ e, x ∈ hashed)
    (h : p.verify s ⟨b.header, i⟩ e = .ok true) :
  b.envelopes[s.place i.toNat]? = some e
    ∧ ∃ info, b.header.validation[i.toNat]? = some info
      ∧ b.header.validation[s.place i.toNat]? = some info
  := by
  obtain ⟨info, siblings, hinfo, hhashes, hfold⟩ := verify_eq_ok_true h
  obtain ⟨first, rest, hleaves, hroot⟩ := hb.exists_leaves
  rw [← hroot] at hfold
  have hplace : s.place i.toNat < (first :: rest).length := by
    rw [← hleaves, hb.length_leaves]
    exact Nat.lt_of_le_of_lt (s.place_le i.toNat) (List.getElem?_eq_some_iff.1 hinfo).1
  have htree : ∀ x ∈ TxTree.bytesOver s first rest, x ∈ hashed := by
    intro x hx
    apply hblock
    apply List.mem_append_right
    rw [hleaves]
    exact hx
  have hleaf : leafBytes s e info ∈ hashed := by
    apply hproof
    simp only [inclusionBytes, TxReceipt.validation?, hinfo]
    exact List.mem_cons_self
  have hsiblings : ∀ x ∈ s.foldBytes i.toNat (leafHash s e info) siblings, x ∈ hashed := by
    intro x hx
    apply hproof
    simp only [inclusionBytes, TxReceipt.validation?, hinfo, hhashes]
    exact List.mem_cons_of_mem _ hx
  obtain hshort | hlength | hlong :=
    Nat.lt_trichotomy siblings.length (TxTree.height (first :: rest))
  · -- A leaf would be a node above the leaves.
    obtain ⟨left, right, hd, hmem⟩ :=
      TxTree.exists_hashPair_of_fold_eq_root hsep htree hsiblings hshort hfold
    exact absurd (hsep _ hleaf _ (htree _ hmem) hd) (leafBytes_ne_pairBytes hs e info left right)
  · have hthere := (TxTree.leaf_of_fold_eq_root hsep htree hsiblings hlength hfold).2 hplace
    rw [← hleaves] at hthere
    obtain ⟨e', info', he', hinfo', hd, hmem⟩ := getElem?_leaves hthere
    obtain ⟨rfl, rfl⟩ := leafBytes_injective hs (hsep _ hleaf _ (hblock _ hmem) hd)
    exact ⟨he', info, hinfo, hinfo'⟩
  · -- A leaf of the tree would be combined from two digests.
    obtain ⟨left, right, hd, hmem⟩ :=
      TxTree.exists_hashPair_mem_of_fold_eq_root hsep htree hsiblings hlong hfold
    rw [← hleaves] at hd
    obtain ⟨i', hi'⟩ := List.mem_iff_getElem?.1 hd
    obtain ⟨e', info', -, -, hd', hmem'⟩ := getElem?_leaves hi'
    exact absurd (hsep _ (hblock _ hmem') _ (hsiblings _ hmem) hd'.symm)
      (leafBytes_ne_pairBytes hs e' info' left right)

/-- The digests of the proof that the tree of the block gives for a leaf. -/
def proofHashes (s : Scheme) (b : Block) (i : Nat) : List Digest :=
  (((b.tree? s).bind fun t => t.proof? i).map InclusionProof.hashes).getD []

/-- The proof of the tree is right. -/
theorem Commits.verify_proofHashes (hb : b.Commits s) {i : UInt64} {e : Envelope}
    (hi : TxTree.HasProof s i.toNat) (he : b.envelopes[i.toNat]? = some e) :
  InclusionProof.verify ⟨b.proofHashes s i.toNat⟩ s ⟨b.header, i⟩ e = .ok true
  := by
  obtain ⟨first, rest, hleaves, hroot⟩ := hb.exists_leaves
  obtain ⟨info, hinfo⟩ : ∃ info, b.header.validation[i.toNat]? = some info := by
    have hlt := (List.getElem?_eq_some_iff.1 he).1
    rw [← hb.1] at hlt
    exact ⟨_, List.getElem?_eq_getElem hlt⟩
  have hleaf : (b.leaves s)[i.toNat]? = some (leafHash s e info) := by
    rw [leaves, List.getElem?_zipWith_eq_some]
    exact ⟨e, info, he, hinfo, rfl⟩
  rw [hleaves] at hleaf
  obtain ⟨siblings, hproof, -, hfold⟩ := TxTree.exists_proof? ⟨s, first, rest⟩ hi hleaf
  have hhashes : b.proofHashes s i.toNat = leafHash s e info :: siblings := by
    rw [proofHashes, tree?, hleaves, TxTree.build?, Option.bind_some, hproof]
    rfl
  have hvalidation : TxReceipt.validation? ⟨b.header, i⟩ = some info := hinfo
  rw [InclusionProof.verify, hhashes, hvalidation]
  simp only [if_true]
  rw [hfold]
  exact congrArg Except.ok (decide_eq_true hroot)

/-! ### Proofs bind envelopes -/

/-- An inclusion proof that is right, of whatever length, binds the envelope: under the order of
index bits it is the transaction at the index of the receipt; where every sibling is added on the
right it is the first transaction of the block, and the outcome at the index is that of the first
transaction. Otherwise different byte strings with the same digest were hashed to build the tree
or to fold the proof. -/
theorem Commits.envelope_of_verify (hb : b.Commits s) (hs : s.encoding = .json)
    {p : InclusionProof} {i : UInt64} {e : Envelope}
    (h : p.verify s ⟨b.header, i⟩ e = .ok true) :
  s.Collision (b.hashed s ++ inclusionBytes s p ⟨b.header, i⟩ e)
    ∨ (s.siblingOrder = .indexBits → b.envelopes[i.toNat]? = some e)
      ∧ (s.siblingOrder = .runningFirst → b.envelopes[0]? = some e
        ∧ ∃ info, b.header.validation[i.toNat]? = some info
          ∧ b.header.validation[0]? = some info)
  := by
  obtain hcollision | hsep :=
    s.collision_or_separates (b.hashed s ++ inclusionBytes s p ⟨b.header, i⟩ e)
  · exact .inl hcollision
  have hplace := hb.getElem?_of_verify hs hsep (fun x hx => List.mem_append_left _ hx)
    (fun x hx => List.mem_append_right _ hx) h
  apply Or.inr
  constructor
  · intro hbits
    have hi : s.place i.toNat = i.toNat := by rw [Scheme.place, hbits]
    rw [hi] at hplace
    exact hplace.1
  · intro hrunning
    have hi : s.place i.toNat = 0 := by rw [Scheme.place, hrunning]
    rwa [hi] at hplace

end Block

namespace Sample

/-- A transaction that creates a database. -/
def creation (database : String) : Envelope := .database ⟨⟨"alice", "tx", [database], []⟩, []⟩

/-- The leaf of a transaction that is valid. -/
def validLeaf (e : Envelope) : Digest := leafHash .version1 e .valid

/-- A block of two transactions, in a scheme that adds every sibling on the right. -/
def pair : Block where
  header :=
    { base := ⟨2, validLeaf (creation "a"), validLeaf (creation "a"), 1⟩
      skipLinks := []
      txRoot := Scheme.version1.hashPair (validLeaf (creation "a")) (validLeaf (creation "b"))
      stateRoot := validLeaf (creation "b")
      validation := [.valid, .valid] }
  envelopes := [creation "a", creation "b"]

theorem commits_pair :
  pair.Commits .version1
  := by
  constructor
  · rfl
  · show some (TxTree.rootOver .version1 (validLeaf (creation "a")) [validLeaf (creation "b")]) = _
    rw [TxTree.rootOver, TxTree.parents, TxTree.rootOver]
    rfl

/-- The proof of the first transaction. -/
def pairProof : InclusionProof := ⟨[validLeaf (creation "a"), validLeaf (creation "b")]⟩

/-- Where every sibling is added on the right, the proof of the first transaction is right at the
index of the second one as well. -/
theorem verify_pairProof :
  pairProof.verify .version1 ⟨pair.header, 1⟩ (creation "a") = .ok true
  := by
  have hvalidation : TxReceipt.validation? ⟨pair.header, 1⟩ = some .valid := rfl
  rw [InclusionProof.verify, hvalidation]
  exact (if_pos rfl).trans (congrArg Except.ok (decide_eq_true rfl))

end Sample

theorem Block.envelope_of_verify_pair :
  Sample.pair.Commits .version1
    ∧ Sample.pairProof.verify .version1 ⟨Sample.pair.header, 1⟩ (Sample.creation "a") = .ok true
    ∧ (Scheme.version1.Collision (Sample.pair.hashed .version1
          ++ inclusionBytes .version1 Sample.pairProof ⟨Sample.pair.header, 1⟩ (Sample.creation "a"))
      ∨ (Scheme.version1.siblingOrder = .indexBits →
          Sample.pair.envelopes[(1 : UInt64).toNat]? = some (Sample.creation "a"))
        ∧ (Scheme.version1.siblingOrder = .runningFirst →
          Sample.pair.envelopes[0]? = some (Sample.creation "a")
            ∧ ∃ info, Sample.pair.header.validation[(1 : UInt64).toNat]? = some info
              ∧ Sample.pair.header.validation[0]? = some info))
  := ⟨Sample.commits_pair, Sample.verify_pairProof,
    Sample.commits_pair.envelope_of_verify rfl Sample.verify_pairProof⟩

end LedgerTrust
