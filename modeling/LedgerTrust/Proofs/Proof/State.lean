import Mathlib.Data.List.Nodup
import Mathlib.Tactic.Use
import LedgerTrust.Proof.Data
import LedgerTrust.Proofs.Ledger.Scheme

/-!
# Entries of the state

A `StateTrie` has a node for the value of each entry and a root above them. Whoever supplies a
proof, of whatever length, if it is right against this root it proves an entry of the state that
is deleted or not as told, unless two different byte strings with the same digest were hashed.

Entries and nodes are hashed alike, with nothing in front that tells which of them it is. So this
needs that no entry has the bytes of a node: neither an entry of the state those of a node of the
proof, nor the entry asked for those of the node of a value. Where a user stores a value that
continues its key to the bytes of a node, a proof leads through it to whatever entry that node
lists: to one that was never stored, or to a deleted one as if it were not.
-/

namespace LedgerTrust

/-! ### What is hashed -/

namespace TrieNode

theorem length_bytes (n : TrieNode) :
  n.bytes.length = 32 * n.hashes.length
  := by
  obtain ⟨ds⟩ := n
  show (ds.flatMap Digest.bytes).length = 32 * ds.length
  induction ds with
  | nil => rfl
  | cons d ds ih =>
    rw [List.flatMap_cons, List.length_append, ih, d.length_bytes, List.length_cons]
    omega

/-- What is hashed for a node determines it. -/
theorem bytes_injective {n n' : TrieNode} (h : n.bytes = n'.bytes) :
  n = n'
  := by
  have hlength : n.hashes.length = n'.hashes.length := by
    have hbytes := congrArg List.length h
    rw [length_bytes, length_bytes] at hbytes
    omega
  obtain ⟨ds⟩ := n
  obtain ⟨es⟩ := n'
  congr 1
  induction ds generalizing es with
  | nil => exact (List.eq_nil_of_length_eq_zero hlength.symm).symm
  | cons d ds ih =>
    cases es with
    | nil => cases hlength
    | cons e es =>
      obtain ⟨hd, hds⟩ := List.append_inj h (d.length_bytes.trans e.length_bytes.symm)
      rw [Digest.ext hd, ih es hds (Nat.succ.inj hlength)]

/-- A byte string is that of a node only if its length is a multiple of that of a digest. -/
theorem bytes_ne_of_length {x : Bytes} (h : x.length % 32 ≠ 0) (n : TrieNode) :
  n.bytes ≠ x
  := by
  rintro rfl
  rw [length_bytes, Nat.mul_mod_right] at h
  exact h rfl

end TrieNode

theorem deletionMarker_ne_bytes (n : TrieNode) :
  n.bytes ≠ deletionMarker
  := TrieNode.bytes_ne_of_length (by decide) n

/-- What is hashed for an entry has a zero byte, and the deletion marker has none. -/
theorem entryBytes_ne_deletionMarker (database key : String) (value : Bytes) :
  entryBytes database key value ≠ deletionMarker
  := by
  intro h
  have hzero : (0 : UInt8) ∈ entryBytes database key value := by
    simp [entryBytes, compositeKey]
  rw [h] at hzero
  exact absurd hzero (by decide)

/-! ### States -/

/-- An entry of the state. -/
structure StateEntry where
  database : String
  key : String
  value : Bytes
  isDeleted : Bool
  deriving DecidableEq

namespace StateEntry

/-- What is hashed for the entry. -/
def bytes (e : StateEntry) : Bytes := entryBytes e.database e.key e.value

/-- The node of the value: it lists the digest of the entry, and the tombstone if the entry is
deleted. -/
def node (s : Scheme) (e : StateEntry) : TrieNode :=
  ⟨s.digest e.bytes :: if e.isDeleted then [tombstone s] else []⟩

theorem mem_node_iff {s : Scheme} {e : StateEntry} {d : Digest} :
  d ∈ (e.node s).hashes ↔ d = s.digest e.bytes ∨ e.isDeleted = true ∧ d = tombstone s
  := by
  cases h : e.isDeleted <;> simp [node, h]

end StateEntry

/-- A state, committed to by a root that lists the digest of the node of each value. -/
structure StateTrie where
  entries : List StateEntry
  deriving DecidableEq

namespace StateTrie

def rootNode (s : Scheme) (t : StateTrie) : TrieNode := ⟨t.entries.map fun e => (e.node s).hash s⟩

/-- The digest of the state in a header. -/
def root (s : Scheme) (t : StateTrie) : Digest := (t.rootNode s).hash s

/-- What is hashed to commit to the state, the deletion marker apart. -/
def hashed (s : Scheme) (t : StateTrie) : List Bytes :=
  (t.rootNode s).bytes
    :: t.entries.map StateEntry.bytes ++ t.entries.map fun e => (e.node s).bytes

theorem rootNode_bytes_mem_hashed (s : Scheme) (t : StateTrie) :
  (t.rootNode s).bytes ∈ t.hashed s
  := List.mem_cons_self

theorem entry_bytes_mem_hashed (s : Scheme) {t : StateTrie} {e : StateEntry} (he : e ∈ t.entries) :
  e.bytes ∈ t.hashed s
  := List.mem_append_left _ (List.mem_cons_of_mem _ (List.mem_map_of_mem he))

theorem node_bytes_mem_hashed (s : Scheme) {t : StateTrie} {e : StateEntry} (he : e ∈ t.entries) :
  (e.node s).bytes ∈ t.hashed s
  := List.mem_append_right _ (List.mem_map.2 ⟨e, he, rfl⟩)

end StateTrie

/-- What is hashed to verify a proof of an entry. -/
def DataProof.hashed (p : DataProof) (database key : String) (value : Bytes) : List Bytes :=
  entryBytes database key value :: deletionMarker :: p.path.map TrieNode.bytes

/-! ### Up a path -/

namespace DataProof

variable {s : Scheme} {root carried : Digest}

theorem climbs_nil_iff :
  climbs s root carried [] = true ↔ carried = root
  := decide_eq_true_iff

theorem climbs_cons_iff {n : TrieNode} {r : List TrieNode} :
  climbs s root carried (n :: r) = true
    ↔ carried ∈ n.hashes ∧ climbs s root (n.hash s) r = true
  := by rw [climbs, Bool.and_eq_true, List.contains_iff_mem]

end DataProof

namespace StateTrie

variable {s : Scheme} {t : StateTrie} {hashed : List Bytes}

/-- A path that leads up to the root is one of the two that the trie has for what is carried, or it
has a node with the bytes of an entry, unless digests collide. -/
theorem path_of_climbs (hsep : s.Separates hashed) (htrie : ∀ x ∈ t.hashed s, x ∈ hashed)
    (hmarker : deletionMarker ∈ hashed) {path : List TrieNode}
    (hpath : ∀ n ∈ path, n.bytes ∈ hashed) (hne : path ≠ []) {carried : Digest}
    (h : DataProof.climbs s (t.root s) carried path = true) :
  (path = [t.rootNode s] ∧ carried ∈ (t.rootNode s).hashes)
    ∨ (∃ e ∈ t.entries, path = [e.node s, t.rootNode s] ∧ carried ∈ (e.node s).hashes)
    ∨ ∃ e ∈ t.entries, ∃ n ∈ path, n.bytes = e.bytes
  := by
  induction path generalizing carried with
  | nil => exact absurd rfl hne
  | cons n r ih =>
    obtain ⟨hcarried, hup⟩ := DataProof.climbs_cons_iff.1 h
    have hn := hpath n List.mem_cons_self
    cases r with
    | nil =>
      have hroot := htrie _ (t.rootNode_bytes_mem_hashed s)
      cases TrieNode.bytes_injective (hsep _ hn _ hroot (DataProof.climbs_nil_iff.1 hup))
      exact .inl ⟨rfl, hcarried⟩
    | cons n' r =>
      obtain ⟨hr, hmem⟩ | ⟨e, he, hr, hmem⟩ | ⟨e, he, m, hm, hbytes⟩ :=
        ih (fun m hm => hpath m (List.mem_cons_of_mem n hm)) nofun hup
      · -- Below the root stands the node of a value.
        obtain ⟨e, he, hd⟩ := List.mem_map.1 hmem
        have hnode := htrie _ (node_bytes_mem_hashed s he)
        cases TrieNode.bytes_injective (hsep _ hnode _ hn hd)
        exact .inr (.inl ⟨e, he, by rw [hr], hcarried⟩)
      · -- Below the node of a value stands an entry, or the tombstone.
        obtain hd | ⟨-, hd⟩ := StateEntry.mem_node_iff.1 hmem
        · have hentry := htrie _ (entry_bytes_mem_hashed s he)
          exact .inr (.inr ⟨e, he, n, List.mem_cons_self, hsep _ hn _ hentry hd⟩)
        · exact absurd (hsep _ hn _ hmarker hd) (deletionMarker_ne_bytes n)
      · exact .inr (.inr ⟨e, he, m, List.mem_cons_of_mem n hm, hbytes⟩)

end StateTrie

/-! ### Proofs that are right -/

namespace DataProof

variable {s : Scheme} {t : StateTrie} {p : DataProof} {database key : String} {value : Bytes}
  {isDeleted : Bool}

/-- A proof that is right has a first node, which lists the tombstone or not as told, and leads up
from the entry. -/
theorem verify_eq_ok_true_iff {entry root : Digest} :
  p.verify s entry root isDeleted = .ok true
    ↔ ∃ n r, p.path = n :: r ∧ (tombstone s ∈ n.hashes ↔ isDeleted = true)
      ∧ climbs s root entry p.path = true
  := by
  unfold verify
  split
  · next hpath => simp [hpath]
  · next n r hpath =>
    rw [hpath, Except.ok.injEq, Bool.and_eq_true, beq_iff_eq, Bool.eq_iff_iff,
      List.contains_iff_mem]
    constructor
    · exact fun h => ⟨n, r, rfl, h⟩
    · rintro ⟨n, r, he, h⟩
      cases he
      exact h

/-- A proof that is right, of whatever length, proves an entry of the state that is deleted or not
as told, unless different byte strings with the same digest were hashed to commit to the state or
to verify the proof. No entry of the state may have the bytes of a node of the proof, and the entry
asked for may not have those of the node of a value. -/
theorem entry_of_verify (hstored : ∀ e ∈ t.entries, ∀ n ∈ p.path, n.bytes ≠ e.bytes)
    (hasked : ∀ e ∈ t.entries, (e.node s).bytes ≠ entryBytes database key value)
    (h : p.verify s (entryHash s database key value) (t.root s) isDeleted = .ok true) :
  s.Collision (t.hashed s ++ p.hashed database key value)
    ∨ ∃ e ∈ t.entries, e.isDeleted = isDeleted ∧ e.bytes = entryBytes database key value
  := by
  obtain hcollision | hsep :=
    s.collision_or_separates (t.hashed s ++ p.hashed database key value)
  · exact .inl hcollision
  obtain ⟨n, r, hpath, htombstone, hclimbs⟩ := verify_eq_ok_true_iff.1 h
  have htrie : ∀ x ∈ t.hashed s, x ∈ t.hashed s ++ p.hashed database key value :=
    fun x hx => List.mem_append_left _ hx
  have hproof : ∀ x ∈ p.hashed database key value,
      x ∈ t.hashed s ++ p.hashed database key value :=
    fun x hx => List.mem_append_right _ hx
  have hentry := hproof (entryBytes database key value) List.mem_cons_self
  have hmarker := hproof deletionMarker (List.mem_cons_of_mem _ List.mem_cons_self)
  have hnodes : ∀ m ∈ p.path, m.bytes ∈ t.hashed s ++ p.hashed database key value := fun m hm =>
    hproof _ (List.mem_cons_of_mem _ (List.mem_cons_of_mem _ (List.mem_map.2 ⟨m, hm, rfl⟩)))
  have hne : p.path ≠ [] := by rw [hpath]; nofun
  apply Or.inr
  obtain ⟨-, hmem⟩ | ⟨e, he, hnode, hmem⟩ | ⟨e, he, m, hm, hbytes⟩ :=
    StateTrie.path_of_climbs hsep htrie hmarker hnodes hne hclimbs
  · -- The entry asked for would be the node of a value.
    obtain ⟨e, he, hd⟩ := List.mem_map.1 hmem
    have hvalue := htrie _ (StateTrie.node_bytes_mem_hashed s he)
    exact absurd (hsep _ hvalue _ hentry hd) (hasked e he)
  · have hstate := htrie _ (StateTrie.entry_bytes_mem_hashed s he)
    have hlive : s.digest e.bytes ≠ tombstone s := fun hd =>
      entryBytes_ne_deletionMarker _ _ _ (hsep _ hstate _ hmarker hd)
    rw [hpath] at hnode
    cases hnode
    use e, he
    constructor
    · rw [StateEntry.mem_node_iff] at htombstone
      rw [Bool.eq_iff_iff, ← htombstone]
      simp [hlive.symm]
    · obtain hd | ⟨-, hd⟩ := StateEntry.mem_node_iff.1 hmem
      · exact (hsep _ hentry _ hstate hd).symm
      · exact absurd (hsep _ hentry _ hmarker hd) (entryBytes_ne_deletionMarker _ _ _)
  · exact absurd hbytes (hstored e he m hm)

end DataProof

namespace Sample

/-- An entry that is deleted. -/
def deletedEntry : StateEntry := ⟨"bdb", "key", Bytes.ofText "old", true⟩

/-- A state of this entry and of one that is kept. -/
def plainState : StateTrie := ⟨[deletedEntry, ⟨"bdb", "other", Bytes.ofText "new", false⟩]⟩

/-- The proof of the deleted entry. -/
def plainProof : DataProof := ⟨[deletedEntry.node .version1, plainState.rootNode .version1]⟩

theorem verify_plainProof :
  plainProof.verify .version1 (entryHash .version1 "bdb" "key" (Bytes.ofText "old"))
    (plainState.root .version1) true = .ok true
  := by
  have hmarker : tombstone .version1 ∈ (deletedEntry.node .version1).hashes :=
    StateEntry.mem_node_iff.2 (.inr ⟨rfl, rfl⟩)
  have hentry : Scheme.version1.digest deletedEntry.bytes
      ∈ (deletedEntry.node .version1).hashes :=
    StateEntry.mem_node_iff.2 (.inl rfl)
  have hnode : (deletedEntry.node .version1).hash .version1
      ∈ (plainState.rootNode .version1).hashes :=
    List.mem_map.2 ⟨deletedEntry, List.mem_cons_self, rfl⟩
  apply DataProof.verify_eq_ok_true_iff.2
  use deletedEntry.node .version1, [plainState.rootNode .version1], rfl
  constructor
  · simp [hmarker]
  · simp only [plainProof, DataProof.climbs_cons_iff, DataProof.climbs_nil_iff]
    exact ⟨hentry, hnode, rfl⟩

/-- No entry of the state has the length of a node. -/
theorem length_plainState :
  ∀ e ∈ plainState.entries, e.bytes.length % 32 ≠ 0
  := by decide

end Sample

theorem DataProof.entry_of_verify_deleted :
  (∀ e ∈ Sample.plainState.entries, ∀ n ∈ Sample.plainProof.path, n.bytes ≠ e.bytes)
    ∧ (∀ e ∈ Sample.plainState.entries,
      (e.node .version1).bytes ≠ entryBytes "bdb" "key" (Bytes.ofText "old"))
    ∧ Sample.plainProof.verify .version1 (entryHash .version1 "bdb" "key" (Bytes.ofText "old"))
      (Sample.plainState.root .version1) true = .ok true
    ∧ (Scheme.version1.Collision (Sample.plainState.hashed .version1
          ++ Sample.plainProof.hashed "bdb" "key" (Bytes.ofText "old"))
      ∨ ∃ e ∈ Sample.plainState.entries, e.isDeleted = true
        ∧ e.bytes = entryBytes "bdb" "key" (Bytes.ofText "old"))
  := by
  have hstored : ∀ e ∈ Sample.plainState.entries, ∀ n ∈ Sample.plainProof.path,
      n.bytes ≠ e.bytes := fun e he n _ =>
    TrieNode.bytes_ne_of_length (Sample.length_plainState e he) n
  have hasked : ∀ e ∈ Sample.plainState.entries,
      (e.node .version1).bytes ≠ entryBytes "bdb" "key" (Bytes.ofText "old") := fun e _ =>
    TrieNode.bytes_ne_of_length (Sample.length_plainState _ List.mem_cons_self) (e.node .version1)
  exact ⟨hstored, hasked, Sample.verify_plainProof,
    entry_of_verify hstored hasked Sample.verify_plainProof⟩

/-! ### A value that poses as a node -/

namespace Sample

/-- An entry whose value continues the key to the bytes of a node, which lists the deleted entry. -/
def trapEntry : StateEntry :=
  ⟨"bdb", "trap", List.replicate 24 46 ++ (Scheme.version1.digest deletedEntry.bytes).bytes, false⟩

def trappedState : StateTrie := ⟨[deletedEntry, trapEntry]⟩

/-- The first bytes of that entry, taken for a digest. -/
def trapPrefix : Digest := ⟨Bytes.ofText "bdb\x00trap" ++ List.replicate 24 46, rfl⟩

/-- A node with the bytes of that entry. -/
def trapNode : TrieNode := ⟨[trapPrefix, Scheme.version1.digest deletedEntry.bytes]⟩

/-- A proof that passes the deleted entry off as kept. -/
def forgedProof : DataProof :=
  ⟨[trapNode, trapEntry.node .version1, trappedState.rootNode .version1]⟩

theorem bytes_trapNode :
  trapNode.bytes = trapEntry.bytes
  := rfl

theorem climbs_forgedProof :
  DataProof.climbs .version1 (trappedState.root .version1)
    (Scheme.version1.digest deletedEntry.bytes) forgedProof.path = true
  := by
  have hlisted : Scheme.version1.digest deletedEntry.bytes ∈ trapNode.hashes := by
    simp [trapNode]
  have hnode : trapNode.hash .version1 ∈ (trapEntry.node .version1).hashes :=
    StateEntry.mem_node_iff.2 (.inl (congrArg Scheme.version1.digest bytes_trapNode))
  have hroot : (trapEntry.node .version1).hash .version1
      ∈ (trappedState.rootNode .version1).hashes :=
    List.mem_map.2 ⟨trapEntry, by simp [trappedState], rfl⟩
  simp only [forgedProof, DataProof.climbs_cons_iff, DataProof.climbs_nil_iff]
  exact ⟨hlisted, hnode, hroot, rfl⟩

/-- What is hashed to commit to the state and to verify the proof. -/
def trappedBytes : List Bytes :=
  [(trappedState.rootNode .version1).bytes, deletedEntry.bytes, trapEntry.bytes,
    (deletedEntry.node .version1).bytes, (trapEntry.node .version1).bytes, deletionMarker]

theorem nodup_trappedBytes :
  (trappedBytes.map Scheme.version1.digest).Nodup
  := by decide +kernel

theorem mem_trappedBytes :
  ∀ x ∈ trappedState.hashed .version1 ++ forgedProof.hashed "bdb" "key" (Bytes.ofText "old"),
    x ∈ trappedBytes
  := by
  have hentry : entryBytes "bdb" "key" (Bytes.ofText "old") = deletedEntry.bytes := rfl
  simp [StateTrie.hashed, DataProof.hashed, forgedProof, trappedState, trappedBytes,
    bytes_trapNode, hentry]

end Sample

/-- A deleted entry is proved as if it were not, by way of the value of another entry, though all
that is hashed has different digests. -/
theorem DataProof.verify_forged :
  Sample.forgedProof.verify .version1 (entryHash .version1 "bdb" "key" (Bytes.ofText "old"))
      (Sample.trappedState.root .version1) false = .ok true
    ∧ ¬ Scheme.version1.Collision (Sample.trappedState.hashed .version1
        ++ Sample.forgedProof.hashed "bdb" "key" (Bytes.ofText "old"))
    ∧ ¬ ∃ e ∈ Sample.trappedState.entries, e.isDeleted = false
        ∧ e.bytes = entryBytes "bdb" "key" (Bytes.ofText "old")
  := by
  refine ⟨?_, ?_, ?_⟩
  · have hmarker : tombstone .version1 ∉ Sample.trapNode.hashes := by decide +kernel
    apply verify_eq_ok_true_iff.2
    use Sample.trapNode, Sample.forgedProof.path.tail, rfl
    constructor
    · simp [hmarker]
    · exact Sample.climbs_forgedProof
  · apply Scheme.Separates.not_collision
    exact Scheme.separates_of_nodup Sample.nodup_trappedBytes Sample.mem_trappedBytes
  · rintro ⟨e, he, hlive, hbytes⟩
    simp only [Sample.trappedState, List.mem_cons, List.not_mem_nil, or_false] at he
    rcases he with rfl | rfl
    · cases hlive
    · have hlength := Sample.length_plainState _ List.mem_cons_self
      exact TrieNode.bytes_ne_of_length hlength Sample.trapNode (Sample.bytes_trapNode.trans hbytes)

end LedgerTrust
