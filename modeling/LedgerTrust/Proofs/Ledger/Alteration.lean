import LedgerTrust.Proofs.Ledger.Inclusion

/-!
# Altered inclusion proofs

From the root down, what a digest was combined from is determined unless digests collide. So
siblings that are folded from one leaf at one position, and are as many as others that lead to the
same root, are these others. An inclusion proof that is right is therefore the only right one of its
length: whatever is altered in its hashes, the result is evaluated and found wrong.
-/

namespace LedgerTrust

namespace Scheme

variable {s : Scheme} {hashed : List Bytes} {position : Nat}

/-- What is hashed to fold siblings is pairs of digests. -/
theorem length_of_mem_foldBytes {current : Digest} {siblings : List Digest} {x : Bytes}
    (h : x ∈ s.foldBytes position current siblings) :
  x.length = 64
  := by
  induction siblings generalizing position current with
  | nil => cases h
  | cons sibling r ih =>
    rcases List.mem_cons.1 h with rfl | h
    · apply length_pairBytes
    · exact ih h

/-- At one position, the digests to combine tell the running one and the sibling. -/
theorem ordered_injective {current current' sibling sibling' : Digest}
    (h : s.ordered position current sibling = s.ordered position current' sibling') :
  current = current' ∧ sibling = sibling'
  := by
  rw [ordered_eq, ordered_eq] at h
  split at h
  · obtain ⟨hsibling, hcurrent⟩ := Prod.mk.inj h
    exact ⟨hcurrent, hsibling⟩
  · exact Prod.mk.inj h

/-- Where digests tell apart what is hashed to fold two lists of siblings of one length at one
position, these lead to one digest only if they start at one digest and are the same. -/
theorem fold_injective (hsep : s.Separates hashed) {current current' : Digest}
    {siblings siblings' : List Digest}
    (hfold : ∀ x ∈ s.foldBytes position current siblings, x ∈ hashed)
    (hfold' : ∀ x ∈ s.foldBytes position current' siblings', x ∈ hashed)
    (hlength : siblings.length = siblings'.length)
    (h : s.fold position current siblings = s.fold position current' siblings') :
  current = current' ∧ siblings = siblings'
  := by
  induction siblings generalizing position current current' siblings' with
  | nil =>
    obtain rfl := List.eq_nil_of_length_eq_zero hlength.symm
    exact ⟨h, rfl⟩
  | cons sibling r ih =>
    obtain _ | ⟨sibling', r'⟩ := siblings'
    · cases hlength
    -- The digests one level up agree, so what they were combined from does.
    obtain ⟨hnext, rfl⟩ := ih (fun x hx => hfold x (List.mem_cons_of_mem _ hx))
      (fun x hx => hfold' x (List.mem_cons_of_mem _ hx)) (Nat.succ.inj hlength) h
    obtain ⟨hleft, hright⟩ := hsep.hashPair_injective (hfold _ List.mem_cons_self)
      (hfold' _ List.mem_cons_self) hnext
    obtain ⟨rfl, rfl⟩ := ordered_injective (Prod.ext hleft hright)
    exact ⟨rfl, rfl⟩

end Scheme

namespace InclusionProof

variable {s : Scheme} {r : TxReceipt} {e : Envelope} {p q : InclusionProof}

/-- The pairs that are hashed to fold a proof; there are none if it does not start with the leaf of
the transaction. -/
def foldedPairs (s : Scheme) (r : TxReceipt) (e : Envelope) (p : InclusionProof) : List Bytes :=
  match r.validation?, p.hashes with
  | some info, first :: siblings =>
    if first = leafHash s e info then s.foldBytes r.index.toNat first siblings else []
  | _, _ => []

theorem length_of_mem_foldedPairs {x : Bytes} (h : x ∈ p.foldedPairs s r e) :
  x.length = 64
  := by
  unfold foldedPairs at h
  split at h
  · split at h
    · exact Scheme.length_of_mem_foldBytes h
    · cases h
  · cases h

theorem foldedPairs_of_leaf {info : ValidationInfo} {siblings : List Digest}
    (hinfo : r.validation? = some info) (hhashes : p.hashes = leafHash s e info :: siblings) :
  p.foldedPairs s r e = s.foldBytes r.index.toNat (leafHash s e info) siblings
  := by
  simp only [foldedPairs, hinfo, hhashes, if_true]

/-- A proof with hashes is evaluated at every index of the block. -/
theorem exists_verify_eq_ok (hindex : r.index.toNat < r.header.validation.length)
    (hp : p.hashes ≠ []) :
  ∃ verified, p.verify s r e = .ok verified
  := by
  have hinfo : r.validation? = some _ := List.getElem?_eq_getElem hindex
  obtain ⟨first, siblings, hhashes⟩ := List.exists_cons_of_ne_nil hp
  simp only [verify, hinfo, hhashes]
  split
  · exact ⟨_, rfl⟩
  · exact ⟨_, rfl⟩

/-- Two proofs of one length are right for the same transaction only if they are the same, unless
digests collide. -/
theorem eq_of_verify (hsep : s.Separates (p.foldedPairs s r e ++ q.foldedPairs s r e))
    (hlength : q.hashes.length = p.hashes.length) (hp : p.verify s r e = .ok true)
    (hq : q.verify s r e = .ok true) :
  q.hashes = p.hashes
  := by
  obtain ⟨info, siblings, hinfo, hhashes, hroot⟩ := Block.verify_eq_ok_true hp
  obtain ⟨info', siblings', hinfo', hhashes', hroot'⟩ := Block.verify_eq_ok_true hq
  obtain rfl := Option.some.inj (hinfo.symm.trans hinfo')
  rw [foldedPairs_of_leaf hinfo hhashes, foldedPairs_of_leaf hinfo' hhashes'] at hsep
  rw [hhashes, hhashes'] at hlength ⊢
  obtain ⟨-, hsiblings⟩ := Scheme.fold_injective hsep
    (fun x hx => List.mem_append_right _ hx) (fun x hx => List.mem_append_left _ hx)
    (Nat.succ.inj hlength) (hroot'.trans hroot.symm)
  rw [hsiblings]

/-- Of every scheme, every envelope and every receipt whose index is one of its block: a proof with
hashes is evaluated, whatever they are; and if it is right, then every other proof with as many
hashes is wrong, however many of them are altered, and in whatever bytes, unless two different pairs
of digests among those that are hashed to fold the two proofs have the same digest. -/
theorem verify_altered (s : Scheme) (e : Envelope) {r : TxReceipt}
    (hindex : r.index.toNat < r.header.validation.length) :
  (∀ p : InclusionProof, p.hashes ≠ [] → ∃ verified, p.verify s r e = .ok verified)
    ∧ ∀ p q : InclusionProof, p.verify s r e = .ok true →
      q.hashes.length = p.hashes.length → q.hashes ≠ p.hashes →
        q.verify s r e = .ok false
          ∨ ∃ x ∈ p.foldedPairs s r e ++ q.foldedPairs s r e,
            ∃ y ∈ p.foldedPairs s r e ++ q.foldedPairs s r e,
              x.length = 64 ∧ y.length = 64 ∧ x ≠ y ∧ s.digest x = s.digest y
  := by
  constructor
  · intro p hp
    exact exists_verify_eq_ok hindex hp
  · intro p q hp hlength hne
    have hpairs : ∀ x ∈ p.foldedPairs s r e ++ q.foldedPairs s r e, x.length = 64 := by
      intro x hx
      exact (List.mem_append.1 hx).elim length_of_mem_foldedPairs length_of_mem_foldedPairs
    obtain ⟨x, hx, y, hy, hxy, hdigest⟩ | hsep :=
      s.collision_or_separates (p.foldedPairs s r e ++ q.foldedPairs s r e)
    · exact .inr ⟨x, hx, y, hy, hpairs x hx, hpairs y hy, hxy, hdigest⟩
    · apply Or.inl
      have hhashes : q.hashes ≠ [] := by
        obtain ⟨info, siblings, -, hstart, -⟩ := Block.verify_eq_ok_true hp
        rw [← List.length_pos_iff, hlength, hstart]
        exact Nat.succ_pos _
      obtain ⟨verified, hq⟩ := exists_verify_eq_ok hindex hhashes
      cases verified with
      | false => exact hq
      | true => exact absurd (eq_of_verify hsep hlength hp hq) hne

end InclusionProof

/-! ### Another sibling -/

namespace Sample

/-- A sibling that is in no tree. -/
def stranger : Digest := ⟨List.replicate 32 255, List.length_replicate⟩

/-- The proof of the first transaction with another sibling. -/
def alteredProof : InclusionProof := ⟨[validLeaf (creation "a"), stranger]⟩

theorem digest_altered :
  Scheme.version1.hashPair (validLeaf (creation "a")) (validLeaf (creation "b"))
    ≠ Scheme.version1.hashPair (validLeaf (creation "a")) stranger
  := by decide +kernel

/-- What is hashed to fold both proofs has different digests. -/
theorem separates_altered :
  Scheme.version1.Separates
    (pairProof.foldedPairs .version1 ⟨pair.header, 1⟩ (creation "a")
      ++ alteredProof.foldedPairs .version1 ⟨pair.header, 1⟩ (creation "a"))
  := by
  rw [InclusionProof.foldedPairs_of_leaf (p := pairProof) rfl rfl,
    InclusionProof.foldedPairs_of_leaf (p := alteredProof) rfl rfl]
  apply Scheme.separates_of_nodup _ fun x hx => hx
  apply List.nodup_cons.2
  constructor
  · intro hmem
    exact digest_altered (List.mem_singleton.1 hmem)
  · apply List.nodup_singleton

end Sample

/-- A right proof is wrong with another sibling. -/
theorem InclusionProof.verify_altered_sibling :
  (1 : UInt64).toNat < Sample.pair.header.validation.length
    ∧ Sample.pairProof.verify .version1 ⟨Sample.pair.header, 1⟩ (Sample.creation "a") = .ok true
    ∧ Sample.alteredProof.verify .version1 ⟨Sample.pair.header, 1⟩ (Sample.creation "a")
      = .ok false
  := by
  have hindex : (1 : UInt64).toNat < Sample.pair.header.validation.length := by decide
  have hne : Sample.alteredProof.hashes ≠ Sample.pairProof.hashes := by
    intro h
    obtain ⟨-, hsibling⟩ := List.cons.inj h
    apply Sample.digest_altered
    rw [(List.cons.inj hsibling).1]
  obtain ⟨-, haltered⟩ := verify_altered .version1 (Sample.creation "a")
    (r := ⟨Sample.pair.header, 1⟩) hindex
  use hindex, Sample.verify_pairProof
  apply (haltered Sample.pairProof Sample.alteredProof Sample.verify_pairProof rfl
    hne).resolve_right
  rintro ⟨x, hx, y, hy, -, -, hxy, hdigest⟩
  exact hxy (Sample.separates_altered x hx y hy hdigest)

end LedgerTrust
