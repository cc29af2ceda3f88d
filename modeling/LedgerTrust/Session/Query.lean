import LedgerTrust.Net.Rejection
import LedgerTrust.Net.SignedReply
import LedgerTrust.Proof.Data
import LedgerTrust.Proof.Path
import LedgerTrust.Session.Basic
import LedgerTrust.Text.Duration

/-!
# Queries of the ledger

A query asks the replica whose turn it is for a path, with the user's signature of that path,
and takes from the reply what the replica signed. Arguments are checked before any replica is
picked, and an answer about another block than the one asked for is refused.
-/

namespace LedgerTrust

/-- What a query signature covers. -/
structure QueryPayload where
  userId : String
  path : String
  deriving DecidableEq, Repr

def QueryPayload.codec : Codec QueryPayload :=
  .record (fun v => (v.userId, v.path, ())) (fun (u, p, _) => ⟨u, p⟩)
    (.required "user_id" .text (.required "path" .text .done))

/-- Why a query has no answer. -/
inductive QueryError where
  | invalidRange (first last : UInt64)
  | invalidTxId (txId : String)
  | invalidDatabase (database : String)
  | anchorBeforeTx (anchor block : UInt64)
  | noReplica
  | transport (cause : TransportError)
  | timedOut (deadline : Duration)
  | rejected (status : Nat) (message : String)
  | unauthenticated (cause : AuthenticationError)
  | otherBlock (asked got : UInt64)
  | otherPath (first last : UInt64) (oldest newest : Option UInt64)
  | proof (cause : ProofError)
  deriving DecidableEq, Repr

namespace QueryError

/-- A block number that may be missing, as it is shown in messages. -/
def shownBlock : Option UInt64 → String
  | some n => "Some(" ++ toString n.toNat ++ ")"
  | none => "None"

/-- A range of block numbers as it is shown in messages. -/
def shownRange (first last : UInt64) : String :=
  toString first.toNat ++ "..=" ++ toString last.toNat

def message : QueryError → String
  | .invalidRange first last => "invalid argument: invalid path range " ++ shownRange first last
  | .invalidTxId txId => "invalid argument: invalid transaction id " ++ Text.quoted txId
  | .invalidDatabase database =>
    "invalid argument: invalid database name " ++ Text.quoted database
  | .anchorBeforeTx anchor block =>
    "invalid argument: trusted block " ++ toString anchor.toNat ++ " precedes transaction block "
      ++ toString block.toNat
  | .noReplica => "no replica available"
  | .transport cause => "transport error: " ++ cause.message
  | .timedOut deadline => "query timed out after " ++ Text.duration deadline
  | .rejected status message =>
    "error handling request, server returned: status: " ++ toString status ++ ", message: "
      ++ message
  | .unauthenticated cause =>
    match cause.node? with
    | some node => "untrusted response from node " ++ node ++ ": " ++ cause.message
    | none => cause.message
  | .otherBlock asked got =>
    "malformed response: asked for block " ++ toString asked.toNat ++ ", got block "
      ++ toString got.toNat
  | .otherPath first last oldest newest =>
    "malformed response: path for " ++ shownRange first last ++ " runs " ++ shownBlock oldest
      ++ "..=" ++ shownBlock newest
  | .proof cause => "proof error: " ++ cause.message

/-- The message of the error that led to this one. -/
def causeMessage? : QueryError → Option String
  | .transport cause => some cause.message
  | .proof cause => some cause.message
  | _ => none

/-- Whether an argument was refused. -/
def isInvalidArgument : QueryError → Bool
  | .invalidRange _ _ => true
  | .invalidTxId _ => true
  | .invalidDatabase _ => true
  | .anchorBeforeTx _ _ => true
  | _ => false

end QueryError

/-- A conversation over a link, which may fail. -/
abbrev Dialogue (α : Type) := ExceptT QueryError (StateM Link) α

namespace Session

/-! ### Asking -/

/-- The query for a path, signed by the user. -/
def queryRequest (s : Session) (url : Url) (path : String) : Request :=
  .query url s.userId (s.signer.sign (s.scheme.encode QueryPayload.codec ⟨s.userId, path⟩))

/-- What a replica answers in a reply. -/
def readReply {α : Type} (s : Session) (c : Codec (Response α)) (replica : Replica)
    (reply : Reply) : Except QueryError α :=
  if reply.status ≠ Reply.okStatus then
    .error (.rejected reply.status (rejectionMessage reply.body))
  else
    match authenticate s.trusted.verify replica.id c reply.body with
    | .error cause => .error (.unauthenticated cause)
    | .ok response => .ok response.content

/-- What a replica answers, given what its query leads to. -/
def readReception {α : Type} (s : Session) (c : Codec (Response α)) (replica : Replica) :
    Option (Except TransportError Reply) → Except QueryError α
  | none => .error (.timedOut (s.queryTimeout.getD .zero))
  | some (.error cause) => .error (.transport cause)
  | some (.ok reply) => s.readReply c replica reply

/-- The answer to the query for a path. -/
def ask {α : Type} (s : Session) (c : Codec (Response α)) (path : String) : Dialogue α :=
  fun l =>
    let (picked, l) := l.select s
    match picked with
    | none => (.error .noReplica, l)
    | some replica =>
      match replica.endpoint path with
      | .error cause => (.error (.transport cause), l)
      | .ok url =>
        let (reception, l) :=
          l.exchange (s.queryRequest url path) (s.queryTimeout.map Duration.length)
        (s.readReception c replica reception, l)

/-- Fails unless a condition holds. -/
def require (condition : Bool) (e : QueryError) : Dialogue Unit :=
  if condition then pure () else throw e

/-! ### Blocks and paths -/

/-- The path of the header of a block. -/
def blockPath (number : UInt64) : String := "/ledger/block/" ++ toString number.toNat

/-- The header of a block. -/
def blockHeader (s : Session) (number : UInt64) : Dialogue BlockHeader := do
  let header ← s.ask Response.blockCodec (blockPath number)
  require (header.number = number) (.otherBlock number header.number)
  return header

/-- The header of the last block. -/
def lastBlockHeader (s : Session) : Dialogue BlockHeader :=
  s.ask Response.blockCodec "/ledger/block/last"

/-- Whether there are blocks from the first to the last number. -/
def isRange (first last : UInt64) : Bool := 1 ≤ first && first ≤ last

/-- The path of the headers that link two blocks. -/
def rangePath (first last : UInt64) : String :=
  "/ledger/path?start=" ++ toString first.toNat ++ "&end=" ++ toString last.toNat

/-- Headers from the last block down to the first one; that they are linked is not checked. -/
def ledgerPath (s : Session) (first last : UInt64) : Dialogue LedgerPath := do
  require (isRange first last) (.invalidRange first last)
  let headers ← s.ask Response.pathCodec (rangePath first last)
  let path : LedgerPath := ⟨headers⟩
  let newest := path.newest?.map BlockHeader.number
  let oldest := path.oldest?.map BlockHeader.number
  require (newest = some last ∧ oldest = some first) (.otherPath first last oldest newest)
  return path

/-! ### Transactions -/

/-- The proof that a block has a transaction at an index. -/
def txProof (s : Session) (block index : UInt64) : Dialogue InclusionProof := do
  let hashes ← s.ask Response.inclusionProofCodec
    ("/ledger/proof/tx/" ++ toString block.toNat ++ "?idx=" ++ toString index.toNat)
  return ⟨hashes⟩

/-- Whether a text can be a transaction identifier. -/
def isTxId (txId : String) : Bool :=
  !txId.isEmpty && txId.toList.all fun c => c.isAlphanum || c == '-' || c == '_'

/-- The receipt of a transaction. -/
def txReceipt (s : Session) (txId : String) : Dialogue TxReceipt := do
  require (isTxId txId) (.invalidTxId txId)
  s.ask Response.receiptCodec ("/ledger/tx/receipt/" ++ txId)

/-! ### Values -/

/-- Whether a text can be the name of a database in a path. -/
def isDatabaseName (database : String) : Bool :=
  !database.isEmpty && database.toList.all fun c =>
    c != '/' && c != '?' && c != '#' && c != '%'

/-- The path of the proof of a value. -/
def valuePath (block : UInt64) (database key : String) (isDeleted : Bool) : String :=
  "/ledger/proof/data/" ++ database ++ "/" ++ Hex.text (Bytes.ofText key) ++ "?block="
    ++ toString block.toNat ++ "&deleted=" ++ (if isDeleted then "true" else "false")

/-- The proof that a key has a value, or had one that is deleted, as of a block. -/
def dataProof (s : Session) (block : UInt64) (database key : String) (isDeleted : Bool) :
    Dialogue DataProof := do
  require (isDatabaseName database) (.invalidDatabase database)
  let path ← s.ask Response.dataProofCodec (valuePath block database key isDeleted)
  return ⟨path⟩

/-- Whether a key has a value, or had one that is deleted, as of the block of a header. -/
def verifyValue (s : Session) (header : BlockHeader) (database key : String) (value : Bytes)
    (isDeleted : Bool) : Dialogue Bool := do
  let proof ← s.dataProof header.number database key isDeleted
  let entry := entryHash s.scheme database key value
  match proof.verify s.scheme entry header.stateRoot isDeleted with
  | .ok verified => return verified
  | .error cause => throw (.proof cause)

end Session

end LedgerTrust
