import LedgerTrust.Ledger.Response
import LedgerTrust.Proof.Error

/-!
# Proofs of values in the state

The state is committed to by a trie whose nodes list digests: those of the values they hold,
those of their children, and the tombstone next to a deleted value. `DataProof.verify` climbs
from the node of a value to the root; each node holds the digest of the one before it.
-/

namespace LedgerTrust

/-- The bytes next to which a deleted value is kept. -/
def deletionMarker : Bytes := Bytes.ofText "__deleted__"

/-- The digest of the deletion marker. -/
def tombstone (s : Scheme) : Digest := s.digest deletionMarker

/-- The key of a database entry in the state: the name of the database and the key, with a
zero byte between them. -/
def compositeKey (database key : String) : Bytes :=
  Bytes.ofText database ++ 0 :: Bytes.ofText key

/-- What is hashed for an entry. -/
def entryBytes (database key : String) (value : Bytes) : Bytes :=
  compositeKey database key ++ value

/-- The digest of an entry. -/
def entryHash (s : Scheme) (database key : String) (value : Bytes) : Digest :=
  s.digest (entryBytes database key value)

namespace TrieNode

/-- What is hashed for a node. -/
def bytes (n : TrieNode) : Bytes := n.hashes.flatMap Digest.bytes

/-- The digest of a node. -/
def hash (s : Scheme) (n : TrieNode) : Digest := s.digest n.bytes

end TrieNode

namespace DataProof

/-- Whether each node holds the digest that is carried up to it, and the last one's digest is
the root. -/
def climbs (s : Scheme) (root carried : Digest) : List TrieNode → Bool
  | [] => carried = root
  | n :: r => n.hashes.contains carried && climbs s root (n.hash s) r

/-- Whether an entry is in the state with the given root, and is deleted or not as told. -/
def verify (p : DataProof) (s : Scheme) (entry root : Digest) (isDeleted : Bool) :
    Except ProofError Bool :=
  match p.path with
  | [] => .error .emptyProof
  | n :: _ =>
    .ok (n.hashes.contains (tombstone s) == isDeleted && climbs s root entry p.path)

end DataProof

end LedgerTrust
