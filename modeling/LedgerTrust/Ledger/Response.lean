import LedgerTrust.Ledger.Block

/-!
# Proofs and responses on the wire

An `InclusionProof` is a list of digests from the leaf of a transaction up to the root; a
`DataProof` is a list of trie nodes from the one of a value up to the root; a `LedgerPath` is a
list of headers, newest first. A `Response` pairs what a node answers with the name under which
the node answers.
-/

namespace LedgerTrust

/-- The leaf of a transaction and the siblings on the way to the root. -/
structure InclusionProof where
  hashes : List Digest
  deriving DecidableEq

def InclusionProof.codec : Codec InclusionProof :=
  .record (fun v => (v.hashes, ())) (fun (h, _) => ⟨h⟩)
    (.required "intermediate_hashes" (.list .digest) .done)

/-- A node of the state trie, given by the digests it holds. -/
structure TrieNode where
  hashes : List Digest
  deriving DecidableEq

def TrieNode.codec : Codec TrieNode :=
  .record (fun v => (v.hashes, ())) (fun (h, _) => ⟨h⟩)
    (.required "hashes" (.list .digest) .done)

/-- Trie nodes from the one of a value up to the root. -/
structure DataProof where
  path : List TrieNode
  deriving DecidableEq

def DataProof.codec : Codec DataProof :=
  .record (fun v => (v.path, ())) (fun (p, _) => ⟨p⟩)
    (.required "path" (.list TrieNode.codec) .done)

/-- Headers from a newest one down to an oldest one. -/
structure LedgerPath where
  headers : List BlockHeader
  deriving DecidableEq

def LedgerPath.codec : Codec LedgerPath :=
  .record (fun v => (v.headers, ())) (fun (h, _) => ⟨h⟩)
    (.required "headers" (.list BlockHeader.codec) .done)

/-! ### Responses -/

/-- What a node answers, and the name under which it answers. -/
structure Response (α : Type) where
  nodeId : String
  content : α
  deriving DecidableEq

namespace Response

/-- The header of a response. -/
def headerCodec : Codec String :=
  .record (fun n => (n, ())) (fun (n, _) => n) (.required "node_id" .text .done)

/-- Responses whose content is described by one field. -/
def codec {α : Type} (content : Fields (α × Unit)) : Codec (Response α) :=
  .record (fun v => (v.nodeId, v.content, ())) (fun (n, c, _) => ⟨n, c⟩)
    (.required "header" headerCodec content)

/-- The answer to a submission; the receipt is missing where none is waited for. -/
def submissionCodec : Codec (Response (Option TxReceipt)) :=
  codec (.defaulted "receipt" TxReceipt.codec.option none .done)

/-- The answer with the header of a block. -/
def blockCodec : Codec (Response BlockHeader) :=
  codec (.required "block_header" BlockHeader.codec .done)

/-- The answer with the headers of a path. -/
def pathCodec : Codec (Response (List BlockHeader)) :=
  codec (.required "block_headers" (.list BlockHeader.codec) .done)

/-- The answer with the digests of an inclusion proof. -/
def inclusionProofCodec : Codec (Response (List Digest)) :=
  codec (.required "hashes" (.list .digest) .done)

/-- The answer with the receipt of a transaction. -/
def receiptCodec : Codec (Response TxReceipt) :=
  codec (.required "receipt" TxReceipt.codec .done)

/-- The answer with the trie nodes of a data proof. -/
def dataProofCodec : Codec (Response (List TrieNode)) :=
  codec (.required "path" (.list TrieNode.codec) .done)

end Response

end LedgerTrust
