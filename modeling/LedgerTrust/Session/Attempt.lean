import LedgerTrust.Draft.Basic
import LedgerTrust.Net.Rejection
import LedgerTrust.Net.SignedReply
import LedgerTrust.Session.Basic

/-!
# Attempts to commit a transaction

An `Attempt` is a draft with a transaction identifier of its own. It is used up once: by
`Attempt.commit` from the moment there is an envelope to submit, or by `Attempt.abort`. A commit
that fails before that leaves the attempt as it was. `Session.verdict` says how a submission
ends, given the reply, if one came in time.
-/

namespace LedgerTrust

/-- The identifier of a transaction: the digest of the user's name and of bytes that are used
only once. -/
def deriveTxId (scheme : Scheme) (userId : String) (nonce : Bytes) : String :=
  Hex.text (scheme.digest (Bytes.ofText userId ++ nonce)).bytes

/-- Where an attempt stands. -/
inductive Phase where
  /-- The draft can be changed. -/
  | drafting
  /-- The envelope is on its way. -/
  | committing
  | committed
  /-- The server has accepted the envelope, and no receipt was waited for. -/
  | submitted
  | timedOut
  | failed
  | aborted
  deriving DecidableEq, Repr

/-- Whether an attempt cannot be used any more. -/
def Phase.isSpent (p : Phase) : Bool := p ≠ .drafting

/-- How a commit that did not fail ended. -/
inductive CommitOutcome where
  | committed (txId : String) (receipt : TxReceipt)
  | accepted (txId : String)
  /-- The transaction may still be committed. -/
  | timedOut (txId : String)
  deriving DecidableEq

namespace CommitOutcome

def txId : CommitOutcome → String
  | .committed id _ => id
  | .accepted id => id
  | .timedOut id => id

def receipt? : CommitOutcome → Option TxReceipt
  | .committed _ r => some r
  | _ => none

/-- Where the attempt stands after this end. -/
def phase : CommitOutcome → Phase
  | .committed _ _ => .committed
  | .accepted _ => .submitted
  | .timedOut _ => .timedOut

end CommitOutcome

/-- Why an attempt does not do what it is asked. -/
inductive AttemptError where
  | alreadySpent
  | notFinalized
  | unauthenticated (cause : AuthenticationError)
  | rejected (status : Nat) (message : String)
  | noReceipt
  | receiptOutsideBlock (index block : UInt64)
  | wrongKind (expected actual : TxKind)
  | compose (cause : ComposeError)
  | noReplica
  | transport (cause : TransportError)
  deriving DecidableEq, Repr

namespace AttemptError

def message : AttemptError → String
  | .alreadySpent => "transaction committed or aborted"
  | .notFinalized => "can't access tx envelope, transaction not finalized"
  | .unauthenticated cause =>
    match cause.node? with
    | some node => "untrusted response from node " ++ node ++ ": " ++ cause.message
    | none => cause.message
  | .rejected status message =>
    "failed to submit transaction, server returned: status: " ++ toString status ++ ", message: "
      ++ message
  | .noReceipt => "malformed response: synchronous commit returned no receipt"
  | .receiptOutsideBlock index block =>
    "malformed response: receipt index " ++ toString index.toNat ++ " outside block "
      ++ toString block.toNat
  | .wrongKind expected actual =>
    "operation requires a " ++ expected.title ++ " transaction, this is a " ++ actual.title
      ++ " transaction"
  | .compose cause => "failed to compose transaction envelope: " ++ cause.message
  | .noReplica => "no replica available"
  | .transport cause => "transport error: " ++ cause.message

/-- Whether the transaction of a failed commit may be committed nevertheless. -/
def outcomeUnknown : AttemptError → Bool
  | .transport cause => !cause.neverSent
  | .unauthenticated _ => true
  | .noReceipt => true
  | .receiptOutsideBlock _ _ => true
  | _ => false

end AttemptError

/-- One attempt to commit a transaction. -/
structure Attempt where
  txId : String
  phase : Phase
  draft : Draft
  /-- What was submitted. -/
  envelope : Option Envelope
  deriving DecidableEq

/-- What is submitted, and to which replica. -/
structure Submission where
  replica : Replica
  url : Url
  envelope : Envelope
  deriving DecidableEq

namespace Session

/-- The time that a commit waits for its reply beyond the time that the server takes. -/
def commitMargin : Duration := .ofSeconds 1

/-- How long a commit waits for its reply, if not without end. With `sync` it has a deadline, which
is missing altogether if it is too long for a duration. -/
def commitDeadline (s : Session) (sync : Bool) : Option (Option Duration) :=
  if sync then (s.commitTimeout.sum? commitMargin).map some else some none

/-- The request of a submission; the server is asked to wait only if the commit does. -/
def submitRequest (s : Session) (sync : Bool) (submission : Submission) : Request :=
  .submit submission.url s.scheme.contentType (if sync then some s.commitTimeout else none)
    (submission.envelope.canonicalBytes s.scheme)

/-- How a commit that waits for a receipt ends with an answer of the replica. -/
def receiptVerdict (txId : String) : Option TxReceipt → Except AttemptError CommitOutcome
  | none => .error .noReceipt
  | some receipt =>
    if receipt.validation?.isSome then .ok (.committed txId receipt)
    else .error (.receiptOutsideBlock receipt.index receipt.blockNumber)

/-- How a commit ends with a reply. -/
def replyVerdict (s : Session) (txId : String) (sync : Bool) (replica : Replica) (reply : Reply) :
    Except AttemptError CommitOutcome :=
  if reply.status = Reply.okStatus then
    match authenticate s.trusted.verify replica.id Response.submissionCodec reply.body with
    | .error cause => .error (.unauthenticated cause)
    | .ok response =>
      if sync then receiptVerdict txId response.content else .ok (.accepted txId)
  else if reply.status = Reply.acceptedStatus then
    .ok (if sync then .timedOut txId else .accepted txId)
  else .error (.rejected reply.status (rejectionMessage reply.body))

/-- How a commit ends with what its request leads to. -/
def verdict (s : Session) (txId : String) (sync : Bool) (replica : Replica) :
    Option (Except TransportError Reply) → Except AttemptError CommitOutcome
  | none => .ok (.timedOut txId)
  | some (.error cause) => .error (.transport cause)
  | some (.ok reply) => s.replyVerdict txId sync replica reply

end Session

namespace Attempt

/-- A new attempt of a kind. -/
def begin (s : Session) (kind : TxKind) (nonce : Bytes) : Attempt :=
  ⟨deriveTxId s.scheme s.userId nonce, .drafting, .empty kind, none⟩

def kind (a : Attempt) : TxKind := a.draft.kind

def isSpent (a : Attempt) : Bool := a.phase.isSpent

/-- The draft of an attempt that can be used and is of the given kind. -/
def draftOf (a : Attempt) (kind : TxKind) : Except AttemptError Draft :=
  if a.isSpent then .error .alreadySpent
  else if a.kind ≠ kind then .error (.wrongKind kind a.kind)
  else .ok a.draft

/-- The attempt with a change to its draft. -/
def edit (a : Attempt) (e : Edit) : Except AttemptError Attempt := do
  let draft ← a.draftOf e.kind
  match draft.edited? e with
  | some draft => return { a with draft := draft }
  | none => throw (.wrongKind e.kind a.kind)

/-- The attempt with nothing in its draft. -/
def cleared (a : Attempt) : Attempt := { a with draft := .empty a.kind }

/-- The attempt given up, without asking any replica. -/
def abort (a : Attempt) : Except AttemptError Attempt :=
  if a.isSpent then .error .alreadySpent else .ok { a.cleared with phase := .aborted }

/-- The envelope that was submitted, unless the attempt failed. -/
def submittedEnvelope (a : Attempt) : Except AttemptError Envelope :=
  match a.phase, a.envelope with
  | .committed, some e => .ok e
  | .submitted, some e => .ok e
  | .timedOut, some e => .ok e
  | _, _ => .error .notFinalized

/-! ### Commits -/

/-- What is submitted to the replica that was picked. -/
def submission (a : Attempt) (s : Session) (picked : Option Replica) :
    Except AttemptError Submission :=
  match picked with
  | none => .error .noReplica
  | some replica =>
    match replica.endpoint a.kind.submitPath with
    | .error cause => .error (.transport cause)
    | .ok url =>
      match a.draft.envelope s.scheme s.signer a.txId with
      | .error cause => .error (.compose cause)
      | .ok envelope => .ok ⟨replica, url, envelope⟩

/-- The attempt while an envelope is on its way. -/
def dispatched (a : Attempt) (e : Envelope) : Attempt :=
  { a.cleared with phase := .committing, envelope := some e }

/-- The attempt at the end of its commit. -/
def settled (a : Attempt) (result : Except AttemptError CommitOutcome) : Attempt :=
  match result with
  | .ok outcome => { a with phase := outcome.phase }
  | .error _ => { a with phase := .failed }

/-- Submits the transaction to the replica whose turn it is. With `sync`, a receipt is waited
for up to the deadline. Without a deadline the commit breaks down: it returns nothing, and the
attempt stays as it is while an envelope is on its way, although none was sent. -/
def commit (a : Attempt) (s : Session) (sync : Bool) (l : Link) :
    Option (Except AttemptError CommitOutcome) × Attempt × Link :=
  if a.isSpent then (some (.error .alreadySpent), a, l)
  else
    let (picked, l) := l.select s
    match a.submission s picked with
    | .error e => (some (.error e), a, l)
    | .ok submission =>
      match s.commitDeadline sync with
      | none => (none, a.dispatched submission.envelope, l)
      | some deadline =>
        let (reception, l) :=
          l.exchange (s.submitRequest sync submission) (deadline.map Duration.length)
        let result := s.verdict a.txId sync submission.replica reception
        (some result, (a.dispatched submission.envelope).settled result, l)

end Attempt

end LedgerTrust
