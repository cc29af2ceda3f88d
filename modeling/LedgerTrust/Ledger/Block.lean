import LedgerTrust.Ledger.Scheme

/-!
# Block headers and receipts

A `BlockHeader` carries the number of its block, digests of earlier headers, the roots of the
trees over its transactions and over the state, and the outcome of each of its transactions. A
`TxReceipt` tells in which block, and at which place there, a transaction stands.
-/

namespace LedgerTrust

/-- What the server decided about a transaction. -/
inductive ValidationFlag where
  | valid
  | databaseDoesNotExist
  | noPermission
  | incorrectEntries
  | unauthorised
  | misformed
  | conflictWithinBlock
  | conflictWithCommittedState
  deriving DecidableEq, Repr

namespace ValidationFlag

def all : List ValidationFlag :=
  [.valid, .databaseDoesNotExist, .noPermission, .incorrectEntries, .unauthorised, .misformed,
    .conflictWithinBlock, .conflictWithCommittedState]

def name : ValidationFlag → String
  | .valid => "VALID"
  | .databaseDoesNotExist => "INVALID_DATABASE_DOES_NOT_EXIST"
  | .noPermission => "INVALID_NO_PERMISSION"
  | .incorrectEntries => "INVALID_INCORRECT_ENTRIES"
  | .unauthorised => "INVALID_UNAUTHORISED"
  | .misformed => "INVALID_MISFORMED"
  | .conflictWithinBlock => "INVALID_MVCC_CONFLICT_WITHIN_BLOCK"
  | .conflictWithCommittedState => "INVALID_MVCC_CONFLICT_WITH_COMMITTED_STATE"

def codec : Codec ValidationFlag := .enumeration all name

end ValidationFlag

/-- The outcome of a transaction, with the reason for which it is invalid. -/
structure ValidationInfo where
  flag : ValidationFlag
  reason : String
  deriving DecidableEq, Repr

namespace ValidationInfo

/-- The outcome of a valid transaction. -/
def valid : ValidationInfo := ⟨.valid, ""⟩

/-- An outcome with a flag and a reason. -/
def invalid (flag : ValidationFlag) (reason : String) : ValidationInfo := ⟨flag, reason⟩

def isValid (v : ValidationInfo) : Bool := v.flag = .valid

def codec : Codec ValidationInfo :=
  .record (fun v => (v.flag, v.reason, ())) (fun (f, r, _) => ⟨f, r⟩)
    (.required "flag" ValidationFlag.codec (.defaulted "reason_if_invalid" .text "" .done))

end ValidationInfo

/-- The place of a block in the chain. -/
structure BaseHeader where
  number : UInt64
  previousBaseHeaderHash : Digest
  lastCommittedBlockHash : Digest
  lastCommittedBlockNumber : UInt64
  deriving DecidableEq

def BaseHeader.codec : Codec BaseHeader :=
  .record
    (fun v => (v.number, v.previousBaseHeaderHash, v.lastCommittedBlockHash,
      v.lastCommittedBlockNumber, ()))
    (fun (n, p, h, m, _) => ⟨n, p, h, m⟩)
    (.required "number" .u64 (.required "previous_base_header_hash" .digest
      (.required "last_committed_block_hash" .digest
        (.required "last_committed_block_num" .u64 .done))))

/-- The header of a block. Its skip links are digests of earlier headers. -/
structure BlockHeader where
  base : BaseHeader
  skipLinks : List Digest
  txRoot : Digest
  stateRoot : Digest
  validation : List ValidationInfo
  deriving DecidableEq

namespace BlockHeader

/-- The number of the block. -/
def number (h : BlockHeader) : UInt64 := h.base.number

def codec : Codec BlockHeader :=
  .record (fun v => (v.base, v.skipLinks, v.txRoot, v.stateRoot, v.validation, ()))
    (fun (b, l, t, s, v, _) => ⟨b, l, t, s, v⟩)
    (.required "base_header" BaseHeader.codec (.required "skipchain_hashes" (.list .digest)
      (.required "tx_merkle_tree_root_hash" .digest
        (.required "state_merkle_tree_root_hash" .digest
          (.required "validation_info" (.list ValidationInfo.codec) .done)))))

/-- The digest by which later headers refer to this one. -/
def hash (s : Scheme) (h : BlockHeader) : Digest := s.hashValue codec h

end BlockHeader

/-- The block of a transaction and its place in that block. -/
structure TxReceipt where
  header : BlockHeader
  index : UInt64
  deriving DecidableEq

namespace TxReceipt

/-- The number of the block. -/
def blockNumber (r : TxReceipt) : UInt64 := r.header.number

/-- The outcome of the transaction, if its place is in the block. -/
def validation? (r : TxReceipt) : Option ValidationInfo := r.header.validation[r.index.toNat]?

def codec : Codec TxReceipt :=
  .record (fun v => (v.header, v.index, ())) (fun (h, i, _) => ⟨h, i⟩)
    (.required "header" BlockHeader.codec (.required "tx_index" .u64 .done))

end TxReceipt

end LedgerTrust
