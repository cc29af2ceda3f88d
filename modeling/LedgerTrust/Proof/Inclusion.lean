import LedgerTrust.Ledger.Response
import LedgerTrust.Ledger.Transaction
import LedgerTrust.Proof.Error

/-!
# Inclusion of a transaction in a block

The leaf of a transaction is the digest of its envelope followed by its outcome.
`InclusionProof.verify` computes the leaf from the envelope and from the outcome that the block
records at the place of the receipt, and folds the siblings of the proof into it; the proof is
right if this yields the root in the header.
-/

namespace LedgerTrust

/-- What is hashed for the leaf of a transaction. -/
def leafBytes (s : Scheme) (e : Envelope) (info : ValidationInfo) : Bytes :=
  e.canonicalBytes s ++ s.encode ValidationInfo.codec info

/-- The leaf of a transaction. -/
def leafHash (s : Scheme) (e : Envelope) (info : ValidationInfo) : Digest :=
  s.digest (leafBytes s e info)

/-- The digests to combine at a position, in the order of the scheme. -/
def Scheme.ordered (s : Scheme) (position : Nat) (current sibling : Digest) : Digest × Digest :=
  match s.siblingOrder with
  | .indexBits => if position % 2 = 1 then (sibling, current) else (current, sibling)
  | .runningFirst => (current, sibling)

/-- The digest reached from `current` at a position by way of siblings. -/
def Scheme.fold (s : Scheme) (position : Nat) (current : Digest) : List Digest → Digest
  | [] => current
  | sibling :: r =>
    let (left, right) := s.ordered position current sibling
    s.fold (position / 2) (s.hashPair left right) r

namespace InclusionProof

/-- Whether the envelope is the transaction at the place of the receipt. -/
def verify (p : InclusionProof) (s : Scheme) (r : TxReceipt) (e : Envelope) :
    Except ProofError Bool :=
  match r.validation?, p.hashes with
  | none, _ => .error (.indexOutOfRange r.index r.header.validation.length)
  | some _, [] => .error .emptyProof
  | some info, first :: siblings =>
    let leaf := leafHash s e info
    if first = leaf then .ok (s.fold r.index.toNat leaf siblings = r.header.txRoot)
    else .ok false

end InclusionProof

end LedgerTrust
