import LedgerTrust.Proofs.Proof.State

/-!
# Tries of any shape

A `Trie` is a node that lists digests and tries below it, as many as there are and in their order; a
trie that is listed counts with the digest of its own node. Whatever the shape, a path from a trie in
it up to the top, each listed by the next, is a proof of every digest that the first one lists. Only
the first one tells whether the value is deleted: a tombstone that is listed further up is a digest
as any other.
-/

namespace LedgerTrust

/-- A node that lists digests and tries, in order. -/
inductive Trie where
  | node (members : List (Digest ⊕ Trie))

namespace Trie

/-- What the node at the top of a trie lists. -/
def members : Trie → List (Digest ⊕ Trie)
  | .node members => members

mutual

/-- The node at the top of a trie as it stands in a proof. -/
def top (s : Scheme) : Trie → TrieNode
  | .node members => ⟨digests s members⟩

/-- The digests that stand for what a node lists. -/
def digests (s : Scheme) : List (Digest ⊕ Trie) → List Digest
  | [] => []
  | .inl d :: r => d :: digests s r
  | .inr t :: r => (top s t).hash s :: digests s r

end

/-- The digest of a trie. -/
def hash (s : Scheme) (t : Trie) : Digest := (t.top s).hash s

/-- Whether the node at the top lists the tombstone. -/
def isMarked (s : Scheme) (t : Trie) : Bool := (t.top s).hashes.contains (tombstone s)

/-- A trie stands below another: the node at the top of the other lists it. -/
def Below (c t : Trie) : Prop := .inr c ∈ t.members

variable {s : Scheme} {c t : Trie}

theorem hash_mem_digests {members : List (Digest ⊕ Trie)} (h : .inr c ∈ members) :
  c.hash s ∈ digests s members
  := by
  induction members with
  | nil => cases h
  | cons m r ih =>
    cases m with
    | inl d =>
      rw [digests]
      apply List.mem_cons_of_mem
      apply ih
      simpa using h
    | inr t =>
      rw [digests]
      obtain heq | h := List.mem_cons.1 h
      · cases heq
        apply List.mem_cons_self
      · apply List.mem_cons_of_mem
        apply ih h

/-- The node of a trie lists the digests of the tries below it. -/
theorem Below.hash_mem (h : c.Below t) :
  c.hash s ∈ (t.top s).hashes
  := by
  cases t with
  | node members =>
    rw [top]
    apply hash_mem_digests h

/-- The nodes of a path up lead from every digest that the first one lists to that of the last. -/
theorem climbs_of_isChain {n : Trie} {up : List Trie} {d : Digest}
    (hup : (n :: up).IsChain Below) (hlast : (n :: up).getLast? = some t)
    (hd : d ∈ (n.top s).hashes) :
  DataProof.climbs s (t.hash s) d ((n :: up).map (top s)) = true
  := by
  induction up generalizing n d with
  | nil =>
    cases hlast
    rw [List.map_cons, DataProof.climbs_cons_iff]
    use hd
    apply DataProof.climbs_nil_iff.2 rfl
  | cons m up ih =>
    obtain ⟨hbelow, hup⟩ := List.isChain_cons_cons.1 hup
    rw [List.getLast?_cons_cons] at hlast
    rw [List.map_cons, DataProof.climbs_cons_iff]
    use hd
    apply ih hup hlast hbelow.hash_mem

end Trie

namespace DataProof

variable {s : Scheme}

/-- A proof can be evaluated unless it is empty. -/
theorem exists_verify_eq_error_iff {p : DataProof} {entry root : Digest} {isDeleted : Bool} :
  (∃ cause, p.verify s entry root isDeleted = .error cause) ↔ p.path = []
  := by
  unfold verify
  split
  · next hpath => simp [hpath]
  · next n r hpath => simp [hpath]

/-- The path from a trie up to the top of one that it is in is a proof of every digest that the node
of the first lists, and tells whether this node lists the tombstone. No path but the empty one fails
to be evaluated. -/
theorem verify_path_of_trie {t n : Trie} {up : List Trie} {entry : Digest}
    (hup : (n :: up).IsChain Trie.Below) (hlast : (n :: up).getLast? = some t)
    (hentry : entry ∈ (n.top s).hashes) :
  let proof : DataProof := ⟨(n :: up).map (Trie.top s)⟩
  proof.verify s entry (t.hash s) (n.isMarked s) = .ok true
    ∧ proof.verify s entry (t.hash s) (!n.isMarked s) = .ok false
    ∧ ∀ (p : DataProof) (d root : Digest) (isDeleted : Bool),
        (∃ cause, p.verify s d root isDeleted = .error cause) ↔ p.path = []
  := by
  intro proof
  have hclimbs : climbs s (t.hash s) entry proof.path = true :=
    Trie.climbs_of_isChain hup hlast hentry
  have hverify : ∀ isDeleted, proof.verify s entry (t.hash s) isDeleted
      = .ok (n.isMarked s == isDeleted) := by
    intro isDeleted
    show Except.ok ((n.isMarked s == isDeleted) && climbs s (t.hash s) entry proof.path) = _
    rw [hclimbs, Bool.and_true]
  constructor
  · rw [hverify, beq_self_eq_true]
  constructor
  · rw [hverify]
    cases n.isMarked s with
    | _ => rfl
  · intro p d root isDeleted
    apply exists_verify_eq_error_iff

end DataProof

namespace Sample

/-- A digest that stands for some part of a trie. -/
def otherDigest : Digest := Scheme.version1.digest (Bytes.ofText "suffix")

/-- The digest of an entry. -/
def storedDigest : Digest := entryHash .version1 "bdb" "key" (Bytes.ofText "value")

/-- The node of a deleted value. -/
def markedTrie : Trie := .node [.inl otherDigest, .inl storedDigest, .inl (tombstone .version1)]

/-- A node between two digests, and above it one that lists it twice. -/
def branchTrie : Trie := .node [.inl otherDigest, .inr markedTrie, .inl otherDigest]

def extendedTrie : Trie := .node [.inr branchTrie, .inl (tombstone .version1), .inr branchTrie]

end Sample

theorem DataProof.verify_path_of_trie_deleted :
  let proof : DataProof :=
    ⟨[Sample.markedTrie, Sample.branchTrie, Sample.extendedTrie].map (Trie.top .version1)⟩
  proof.verify .version1 Sample.storedDigest (Sample.extendedTrie.hash .version1) true = .ok true
    ∧ proof.verify .version1 Sample.storedDigest (Sample.extendedTrie.hash .version1) false
      = .ok false
  := by
  intro proof
  have hup : [Sample.markedTrie, Sample.branchTrie, Sample.extendedTrie].IsChain Trie.Below := by
    simp [Trie.Below, Trie.members, Sample.branchTrie, Sample.extendedTrie]
  have hentry : Sample.storedDigest ∈ (Sample.markedTrie.top .version1).hashes := by
    simp [Sample.markedTrie, Trie.top, Trie.digests]
  have hmarked : Sample.markedTrie.isMarked .version1 = true := by
    simp [Trie.isMarked, Sample.markedTrie, Trie.top, Trie.digests]
  obtain ⟨hright, hwrong, -⟩ := verify_path_of_trie hup rfl hentry
  rw [hmarked] at hright hwrong
  exact ⟨hright, hwrong⟩

end LedgerTrust
