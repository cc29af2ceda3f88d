import LedgerTrust.Proofs.Data.Checks
import LedgerTrust.Proofs.Session.Completeness

/-!
# What a fetch gives

A fetch is an operation of the ledger that asks one thing of one replica. Between the check of its
arguments and the check of what it got, every fetch is the same query (`Fetch.dialogue_eq`), so what
a query makes sure of holds of every fetch. An answer with any other status than 200 is a rejection,
whatever its body is.
-/

namespace LedgerTrust

namespace Session

open Dialogue

variable {l l' : Link}

/-! ### Checks -/

/-- A result that is known without a use of the link. -/
def given {β : Type} (result : Except QueryError β) : Dialogue β := fun l => (result, l)

/-- An error unless a condition holds. -/
def checked (condition : Bool) (e : QueryError) : Except QueryError Unit :=
  if condition then .ok () else .error e

theorem require_eq_given (condition : Bool) (e : QueryError) :
  require condition e = given (checked condition e)
  := by
  cases condition with
  | true => rfl
  | false => rfl

theorem given_pure {β : Type} (a : β) :
  given (pure a) = pure a
  := rfl

theorem given_bind {β γ : Type} (x : Except QueryError β) (f : β → Except QueryError γ) :
  given (x >>= f) = given x >>= fun a => given (f a)
  := by
  cases x with
  | ok a => rfl
  | error e => rfl

theorem evaluated_eq_given (result : Except ProofError Bool) :
  evaluated result = given (result.mapError .proof)
  := by
  cases result with
  | ok verified => rfl
  | error cause => rfl

theorem given_eq_ok {β : Type} {result : Except QueryError β} {b : β} :
  given result l = (.ok b, l') ↔ result = .ok b ∧ l = l'
  := by
  unfold given
  rw [Prod.mk.injEq]

theorem given_eq_error {β : Type} {result : Except QueryError β} {e : QueryError} :
  given result l = (.error e, l') ↔ result = .error e ∧ l = l'
  := by
  unfold given
  rw [Prod.mk.injEq]

theorem checked_eq_error {condition : Bool} {e e' : QueryError} :
  checked condition e = .error e' ↔ condition = false ∧ e' = e
  := by
  cases condition with
  | true => simp [checked]
  | false => simp [checked, eq_comm]

theorem checked_bind_eq_ok {β : Type} {condition : Bool} {e : QueryError} {b b' : β} :
  (do checked condition e; return b) = Except.ok b' ↔ condition = true ∧ b = b'
  := by
  cases condition with
  | true =>
    constructor
    · rintro ⟨⟩
      exact ⟨rfl, rfl⟩
    · rintro ⟨-, rfl⟩
      rfl
  | false =>
    constructor
    · nofun
    · nofun

end Session

/-! ### Fetches -/

/-- A fetch from the ledger with its arguments. -/
inductive Fetch where
  | blockHeader (number : UInt64)
  | lastBlockHeader
  | ledgerPath (first last : UInt64)
  | txProof (block index : UInt64)
  | txReceipt (txId : String)
  | dataProof (block : UInt64) (database key : String) (isDeleted : Bool)
  | verifyValue (header : BlockHeader) (database key : String) (value : Bytes) (isDeleted : Bool)
  deriving DecidableEq

namespace Fetch

open Dialogue Session

/-- What a fetch gives. -/
abbrev Value : Fetch → Type
  | .blockHeader _ => BlockHeader
  | .lastBlockHeader => BlockHeader
  | .ledgerPath _ _ => LedgerPath
  | .txProof _ _ => InclusionProof
  | .txReceipt _ => TxReceipt
  | .dataProof _ _ _ _ => DataProof
  | .verifyValue _ _ _ _ _ => Bool

/-- What a replica answers. -/
abbrev Content : Fetch → Type
  | .blockHeader _ => BlockHeader
  | .lastBlockHeader => BlockHeader
  | .ledgerPath _ _ => List BlockHeader
  | .txProof _ _ => List Digest
  | .txReceipt _ => TxReceipt
  | .dataProof _ _ _ _ => List TrieNode
  | .verifyValue _ _ _ _ _ => List TrieNode

/-- The dialogue of a fetch. -/
def dialogue (s : Session) : (f : Fetch) → Dialogue f.Value
  | .blockHeader number => s.blockHeader number
  | .lastBlockHeader => s.lastBlockHeader
  | .ledgerPath first last => s.ledgerPath first last
  | .txProof block index => s.txProof block index
  | .txReceipt txId => s.txReceipt txId
  | .dataProof block database key isDeleted => s.dataProof block database key isDeleted
  | .verifyValue header database key value isDeleted =>
    s.verifyValue header database key value isDeleted

/-- How the answer to a fetch is written. -/
def codec : (f : Fetch) → Codec (Response f.Content)
  | .blockHeader _ => Response.blockCodec
  | .lastBlockHeader => Response.blockCodec
  | .ledgerPath _ _ => Response.pathCodec
  | .txProof _ _ => Response.inclusionProofCodec
  | .txReceipt _ => Response.receiptCodec
  | .dataProof _ _ _ _ => Response.dataProofCodec
  | .verifyValue _ _ _ _ _ => Response.dataProofCodec

/-- The path that a fetch asks for. -/
def path : Fetch → String
  | .blockHeader number => blockPath number
  | .lastBlockHeader => "/ledger/block/last"
  | .ledgerPath first last => rangePath first last
  | .txProof block index => txProofPath block index
  | .txReceipt txId => "/ledger/tx/receipt/" ++ txId
  | .dataProof block database key isDeleted => valuePath block database key isDeleted
  | .verifyValue header database key _ isDeleted =>
    valuePath header.number database key isDeleted

/-- The check of the arguments of a fetch. -/
def check : Fetch → Except QueryError Unit
  | .blockHeader _ => pure ()
  | .lastBlockHeader => pure ()
  | .ledgerPath first last => checked (isRange first last) (.invalidRange first last)
  | .txProof _ _ => pure ()
  | .txReceipt txId => checked (isTxId txId) (.invalidTxId txId)
  | .dataProof _ database _ _ => checked (isDatabaseName database) (.invalidDatabase database)
  | .verifyValue _ database _ _ _ => checked (isDatabaseName database) (.invalidDatabase database)

/-- What a fetch makes of an answer. -/
def value (s : Session) : (f : Fetch) → f.Content → Except QueryError f.Value
  | .blockHeader number, header => do
    checked (header.number = number) (.otherBlock number header.number)
    return header
  | .lastBlockHeader, header => pure header
  | .ledgerPath first last, headers => do
    let newest := headers.head?.map BlockHeader.number
    let oldest := headers.getLast?.map BlockHeader.number
    checked (newest = some last ∧ oldest = some first) (.otherPath first last oldest newest)
    return ⟨headers⟩
  | .txProof _ _, hashes => pure ⟨hashes⟩
  | .txReceipt _, receipt => pure receipt
  | .dataProof _ _ _ _, nodes => pure ⟨nodes⟩
  | .verifyValue header database key value isDeleted, nodes =>
    (DataProof.verify ⟨nodes⟩ s.scheme (entryHash s.scheme database key value) header.stateRoot
      isDeleted).mapError .proof

variable {s : Session} {l l' : Link}

/-- Every fetch is a check of its arguments, a query, and a look at what the query gave. -/
theorem dialogue_eq (s : Session) (f : Fetch) :
  f.dialogue s = (do given f.check; let content ← s.ask f.codec f.path; given (f.value s content))
  := by
  cases f with
  | blockHeader number =>
    simp only [dialogue, Session.blockHeader, check, value, require_eq_given, given_bind,
      given_pure, pure_bind]
    rfl
  | lastBlockHeader =>
    simp only [dialogue, Session.lastBlockHeader, check, value, given_pure, pure_bind, bind_pure]
    rfl
  | ledgerPath first last =>
    simp only [dialogue, Session.ledgerPath, check, value, require_eq_given, given_bind, given_pure]
    rfl
  | txProof block index =>
    simp only [dialogue, Session.txProof, check, value, given_pure, pure_bind]
    rfl
  | txReceipt txId =>
    simp only [dialogue, Session.txReceipt, check, value, require_eq_given, given_pure, bind_pure]
    rfl
  | dataProof block database key isDeleted =>
    simp only [dialogue, Session.dataProof, check, value, require_eq_given, given_pure]
    rfl
  | verifyValue header database key value isDeleted =>
    simp only [dialogue, Session.verifyValue, Session.dataProof, check, Fetch.value,
      require_eq_given, bind_assoc, pure_bind, ← evaluated_eq_given]
    apply bind_congr
    intro _
    apply bind_congr
    intro nodes
    -- Both sides go by what the proof evaluates to, in different terms.
    generalize DataProof.verify _ _ _ _ _ = result
    cases result with
    | ok verified => rfl
    | error cause => rfl

/-! ### Errors -/

variable {f : Fetch} {e : QueryError}

/-- The check of arguments refuses them, and has no other errors. -/
theorem isInvalidArgument_of_check (h : f.check = .error e) :
  e.isInvalidArgument = true
  := by
  cases f with
  | ledgerPath first last =>
    obtain ⟨-, rfl⟩ := checked_eq_error.1 h
    rfl
  | txReceipt txId =>
    obtain ⟨-, rfl⟩ := checked_eq_error.1 h
    rfl
  | dataProof block database key isDeleted =>
    obtain ⟨-, rfl⟩ := checked_eq_error.1 h
    rfl
  | verifyValue header database key value isDeleted =>
    obtain ⟨-, rfl⟩ := checked_eq_error.1 h
    rfl
  | _ => cases h

/-- What is wrong with an answer of which nothing is made. -/
inductive Unfit : QueryError → Prop
  | otherBlock (asked got : UInt64) : Unfit (.otherBlock asked got)
  | otherPath (first last : UInt64) (oldest newest : Option UInt64) :
    Unfit (.otherPath first last oldest newest)
  | proof (cause : ProofError) : Unfit (.proof cause)

theorem unfit_of_value {content : f.Content} (h : f.value s content = .error e) :
  Unfit e
  := by
  cases f with
  | blockHeader number =>
    obtain hother | ⟨_, -, ⟨⟩⟩ := bind_eq_error_iff.1 h
    obtain ⟨-, rfl⟩ := checked_eq_error.1 hother
    apply Unfit.otherBlock
  | ledgerPath first last =>
    obtain hother | ⟨_, -, ⟨⟩⟩ := bind_eq_error_iff.1 h
    obtain ⟨-, rfl⟩ := checked_eq_error.1 hother
    apply Unfit.otherPath
  | verifyValue header database key value isDeleted =>
    obtain ⟨cause, -, rfl⟩ := mapError_eq_error_iff.1 h
    apply Unfit.proof
  | _ => cases h

/-! ### Results -/

/-- A fetch gives exactly what it makes of the content of a trusted answer. -/
theorem dialogue_eq_ok_iff {f : Fetch} {v : f.Value} :
  f.dialogue s l = (.ok v, l')
    ↔ f.check = .ok () ∧ ∃ a : Answer f.Content, s.Trusts f.codec f.path l a
      ∧ f.value s a.response.content = .ok v ∧ l' = s.queried f.path l a.url
  := by
  rw [dialogue_eq]
  simp only [bind_eq_ok, given_eq_ok, ask_eq_ok_iff]
  constructor
  · rintro ⟨_, _, ⟨hcheck, rfl⟩, content, l₁, ⟨a, ha, rfl, rfl⟩, hvalue, rfl⟩
    exact ⟨hcheck, a, ha, hvalue, rfl⟩
  · rintro ⟨hcheck, a, ha, hvalue, rfl⟩
    exact ⟨(), l, ⟨hcheck, rfl⟩, _, _, ⟨a, ha, rfl, rfl⟩, hvalue, rfl⟩

/-- A fetch that is answered with another status than 200 is rejected. -/
theorem dialogue_of_status {f : Fetch} {replica : Replica} {url : Url} {reply : Reply}
    (hcheck : f.check = .ok ()) (haddress : s.Addresses f.path l replica url)
    (hreceives : s.Receives l.line.next reply) (hstatus : reply.status ≠ 200) :
  f.dialogue s l
    = (.error (.rejected reply.status (rejectionMessage reply.body)), s.queried f.path l url)
  := by
  rw [dialogue_eq, hcheck]
  apply bind_eq_error.2
  refine .inr ⟨(), l, rfl, bind_eq_error.2 (.inl ?_)⟩
  rw [ask_of_receives haddress hreceives, readReply_of_status hstatus]

/-- The header that is given is the one of the block that was asked for. -/
theorem number_of_blockHeader {number : UInt64} {header : BlockHeader}
    (h : s.blockHeader number l = (.ok header, l')) :
  header.number = number
  := by
  obtain ⟨-, a, -, hvalue, -⟩ := (dialogue_eq_ok_iff (f := .blockHeader number)).1 h
  obtain ⟨hnumber, rfl⟩ := checked_bind_eq_ok.1 hvalue
  exact of_decide_eq_true hnumber

/-- The path that is given runs between the blocks that were asked for. -/
theorem ends_of_ledgerPath {first last : UInt64} {path : LedgerPath}
    (h : s.ledgerPath first last l = (.ok path, l')) :
  1 ≤ first ∧ first ≤ last
    ∧ path.headers.head?.map BlockHeader.number = some last
    ∧ path.headers.getLast?.map BlockHeader.number = some first
  := by
  obtain ⟨hrange, -, hnewest, holdest⟩ := ledgerPath_eq_ok.1 h
  rw [isRange, Bool.and_eq_true, decide_eq_true_eq, decide_eq_true_eq] at hrange
  exact ⟨hrange.1, hrange.2, hnewest, holdest⟩

/-- Of every fetch, with any arguments and whatever the replicas deliver: it gives a value exactly if
its arguments pass their check, the answer is trusted and the value is made of what the answer says;
the header of a block is the one that was asked for, and a path runs down from the last block that
was asked for to the first one; and an answer in time with another status than 200 is a rejection. -/
theorem dialogue_trusts (s : Session) (f : Fetch) (l : Link) :
  (∀ v l', f.dialogue s l = (.ok v, l')
      ↔ f.check = .ok () ∧ ∃ a : Answer f.Content, s.Trusts f.codec f.path l a
        ∧ f.value s a.response.content = .ok v ∧ l' = s.queried f.path l a.url)
    ∧ (∀ number header l', s.blockHeader number l = (.ok header, l') → header.number = number)
    ∧ (∀ first last path l', s.ledgerPath first last l = (.ok path, l') →
        1 ≤ first ∧ first ≤ last
          ∧ path.headers.head?.map BlockHeader.number = some last
          ∧ path.headers.getLast?.map BlockHeader.number = some first)
    ∧ ∀ replica url reply, f.check = .ok () → s.Addresses f.path l replica url →
        s.Receives l.line.next reply → reply.status ≠ 200 →
        f.dialogue s l
          = (.error (.rejected reply.status (rejectionMessage reply.body)), s.queried f.path l url)
  := by
  constructor
  · intro v l'
    apply dialogue_eq_ok_iff
  constructor
  · intro number header l'
    apply number_of_blockHeader
  constructor
  · intro first last path l'
    apply ends_of_ledgerPath
  · intro replica url reply
    apply dialogue_of_status

namespace Sample

/-- A reply whose body is signed, but whose status says that the request is only accepted. -/
def acceptedReply : Reply :=
  ⟨202, SignedReply.codec.json ⟨Sample.proofText, Sample.proofSignature⟩⟩

def acceptedLink : Link := .start [⟨.ok acceptedReply, 5⟩]

theorem authenticate_acceptedReply :
  ∃ response, authenticate Sample.session.trusted.verify "node1" (txProof 2 0).codec
    acceptedReply.body = .ok response
  := by
  use ⟨"node1", [leafHash Sample.scheme Sample.envelope .valid]⟩
  apply authenticate_of_carries _ (by decide)
  · exact .written Sample.proofSignature rfl Sample.verify_proofText
  · exact .required Codec.faithful_digest.list Fields.faithful_done (by decide)

end Sample

/-- The proof of a transaction is given if the answer to it is trusted; the same body is authentic
with status 202 too, and is rejected. -/
theorem dialogue_trusts_sample :
  (∃ a, Sample.session.Trusts (txProof 2 0).codec (txProof 2 0).path Sample.link a)
    ∧ (∃ response, authenticate Sample.session.trusted.verify "node1" (txProof 2 0).codec
        Sample.acceptedReply.body = .ok response)
    ∧ ∃ message l', (txProof 2 0).dialogue Sample.session Sample.acceptedLink
      = (.error (.rejected 202 message), l')
  := by
  obtain ⟨hgiven, -⟩ := dialogue_trusts Sample.session (txProof 2 0) Sample.link
  obtain ⟨-, -, -, hrejected⟩ := dialogue_trusts Sample.session (txProof 2 0) Sample.acceptedLink
  constructor
  · obtain ⟨-, a, ha, -⟩ := (hgiven _ _).1 (txProof_of_answers Sample.answers_inclusion)
    exact ⟨a, ha⟩
  constructor
  · exact Sample.authenticate_acceptedReply
  · obtain ⟨url, hurl⟩ : ∃ url, Sample.replica.endpoint (txProof 2 0).path = .ok url :=
      Sample.exists_endpoint (by decide +kernel)
    exact ⟨_, _, hrejected _ url _ rfl ⟨rfl, hurl⟩ ⟨rfl, nofun⟩ (by decide)⟩

end Fetch

end LedgerTrust
