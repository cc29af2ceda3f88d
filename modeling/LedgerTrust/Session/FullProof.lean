import LedgerTrust.Proof.Inclusion
import LedgerTrust.Session.Query

/-!
# Full proofs of transactions

A full proof of a transaction is gathered by queries: an inclusion proof for its block, a path
of headers from the block down to the first one, and a path from a trusted header, the anchor,
down to the block. It is verified if the inclusion proof is right, each path is linked, and the
ends of the paths are the headers they should be. A part that cannot be had is an error.
-/

namespace LedgerTrust

/-- The parts of a full proof. A path between equal blocks is missing. -/
structure FullProof where
  verified : Bool
  inclusion : InclusionProof
  toGenesis : Option LedgerPath
  fromAnchor : Option LedgerPath
  deriving DecidableEq

/-- Whether there is a header and it has the given digest. -/
def hasHash (s : Scheme) (header : Option BlockHeader) (hash : Digest) : Bool :=
  match header with
  | some h => h.hash s = hash
  | none => false

namespace Session

/-- The number of the first block. -/
def genesis : UInt64 := 1

/-- A proof that can be evaluated, or the error that it cannot. -/
def evaluated (result : Except ProofError Bool) : Dialogue Bool :=
  match result with
  | .ok verified => return verified
  | .error cause => throw (.proof cause)

/-- The path from the block of a header down to the first block, and whether it is right. The
first block needs none. -/
def pathToGenesis (s : Session) (header : BlockHeader) : Dialogue (Option LedgerPath × Bool) :=
  if genesis < header.number then do
    let path ← s.ledgerPath genesis header.number
    let isLinked ← evaluated (path.verify s.scheme)
    return (some path, isLinked && hasHash s.scheme path.newest? (header.hash s.scheme)
      && path.oldest?.map BlockHeader.number = some genesis)
  else return (none, true)

/-- The path from an anchor down to the block of a header, and whether it is right. If these are
the same block no path is needed, and the headers have to agree. -/
def pathFromAnchor (s : Session) (anchor header : BlockHeader) :
    Dialogue (Option LedgerPath × Bool) :=
  if header.number < anchor.number then do
    let path ← s.ledgerPath header.number anchor.number
    let isLinked ← evaluated (path.verify s.scheme)
    return (some path, isLinked && hasHash s.scheme path.newest? (anchor.hash s.scheme)
      && hasHash s.scheme path.oldest? (header.hash s.scheme))
  else return (none, anchor.hash s.scheme = header.hash s.scheme)

/-- The full proof that an envelope is the transaction of a receipt, against an anchor. -/
def fullProof (s : Session) (receipt : TxReceipt) (anchor : BlockHeader) (envelope : Envelope) :
    Dialogue FullProof := do
  require (receipt.blockNumber ≤ anchor.number)
    (.anchorBeforeTx anchor.number receipt.blockNumber)
  let inclusion ← s.txProof receipt.blockNumber receipt.index
  let isIncluded ← evaluated (inclusion.verify s.scheme receipt envelope)
  let (toGenesis, reachesGenesis) ← s.pathToGenesis receipt.header
  let (fromAnchor, isAnchored) ← s.pathFromAnchor anchor receipt.header
  return ⟨isIncluded && reachesGenesis && isAnchored, inclusion, toGenesis, fromAnchor⟩

end Session

end LedgerTrust
