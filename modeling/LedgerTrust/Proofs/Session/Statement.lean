import LedgerTrust.Proofs.Draft.Compose
import LedgerTrust.Proofs.Ledger.Transaction
import LedgerTrust.Proofs.Session.Operation

/-!
# What a user signs

In a session a user signs two sorts of things with one key: the paths of queries, and the payloads of
the four kinds of transactions. Nothing in front of the signed bytes tells which of these they are.
In JSON they tell it themselves: no two purposes have payloads with the same members, and what is
written of a payload tells its members, whatever texts it is made of. So the signed bytes determine
the statement that was signed.
-/

namespace LedgerTrust

open Codec Fields

/-! ### Purposes -/

/-- What a user signs something for. -/
inductive Purpose where
  | query
  | submission (kind : TxKind)
  deriving DecidableEq

namespace Purpose

/-- What is signed for a purpose. -/
abbrev Payload : Purpose → Type
  | .query => QueryPayload
  | .submission .data => DataTx
  | .submission .database => DatabaseTx
  | .submission .user => UserTx
  | .submission .config => ConfigTx

def codec : (p : Purpose) → Codec p.Payload
  | .query => QueryPayload.codec
  | .submission .data => DataTx.codec
  | .submission .database => DatabaseTx.codec
  | .submission .user => UserTx.codec
  | .submission .config => ConfigTx.codec

/-- The names of the fields of a payload. -/
def names : Purpose → List String
  | .query => ["user_id", "path"]
  | .submission kind => kind.payloadNames

/-- The purposes differ in the fields of their payloads. -/
theorem names_injective {p p' : Purpose} (h : p.names = p'.names) :
  p = p'
  := by
  cases p with
  | query =>
    cases p' with
    | query => rfl
    | submission kind => cases kind <;> revert h <;> decide
  | submission kind =>
    cases p' with
    | query => cases kind <;> revert h <;> decide
    | submission kind' => rw [TxKind.payloadNames_injective h]

theorem writesMembers_queryPayload :
  QueryPayload.codec.WritesMembers ["user_id", "path"]
  := by
  apply writesMembers_record _ fun _ => rfl
  apply Faithful.required faithful_text _ (by decide)
  exact .required faithful_text faithful_done (by decide)

theorem writesMembers_codec (p : Purpose) :
  p.codec.WritesMembers p.names
  := by
  cases p with
  | query => exact writesMembers_queryPayload
  | submission kind =>
    cases kind with
    | data => exact DataTx.writesMembers_codec
    | database => exact DatabaseTx.writesMembers_codec
    | user => exact UserTx.writesMembers_codec
    | config => exact ConfigTx.writesMembers_codec

end Purpose

/-! ### Statements -/

/-- What a user signs: a payload, and what it is for. -/
structure Statement where
  purpose : Purpose
  payload : purpose.Payload

namespace Statement

/-- The bytes that are signed; they do not tell the purpose. -/
def bytes (s : Scheme) (statement : Statement) : Bytes :=
  s.encode statement.purpose.codec statement.payload

/-- In JSON, statements with the same bytes are equal. -/
theorem eq_of_bytes {s : Scheme} (hs : s.encoding = .json) {v v' : Statement}
    (h : v.bytes s = v'.bytes s) :
  v = v'
  := by
  obtain ⟨p, payload⟩ := v
  obtain ⟨p', payload'⟩ := v'
  rw [bytes, bytes, Scheme.encode, Scheme.encode, hs] at h
  have hjson : p.codec.json payload = p'.codec.json payload' := h
  obtain rfl := Purpose.names_injective
    ((p.writesMembers_codec).names_eq p'.writesMembers_codec hjson)
  rw [p.writesMembers_codec.faithful.json_injective hjson]

end Statement

/-! ### What is signed in a session -/

/-- The statement of a user who asks for a path. -/
def Session.queryStatement (s : Session) (path : String) : Statement :=
  ⟨.query, ⟨s.userId, path⟩⟩

namespace Envelope

/-- The statement of those who submit a transaction. -/
def statement : Envelope → Statement
  | .data e => ⟨.submission .data, e.payload⟩
  | .database e => ⟨.submission .database, e.payload⟩
  | .user e => ⟨.submission .user, e.payload⟩
  | .config e => ⟨.submission .config, e.payload⟩

/-- The signatures of an envelope with the names of those who signed. -/
def signatures : Envelope → List (String × Bytes)
  | .data e => e.signatures.entries
  | .database e => [(e.payload.userId, e.signature)]
  | .user e => [(e.payload.userId, e.signature)]
  | .config e => [(e.payload.userId, e.signature)]

theorem purpose_statement (e : Envelope) :
  e.statement.purpose = .submission e.kind
  := by
  cases e with
  | _ => rfl

end Envelope

/-- An envelope that a draft makes has the signature of the signer, for the statement that it makes,
and no other. -/
theorem Draft.signatures_of_envelope {d : Draft} {scheme : Scheme} {signer : Signer}
    {txId : String} {e : Envelope} (h : d.envelope scheme signer txId = .ok e) :
  e.signatures = [(signer.userId, signer.sign (e.statement.bytes scheme))]
  := by
  cases d with
  | data d =>
    obtain ⟨payload, -, rfl⟩ := exists_payload h
    rfl
  | database d =>
    obtain ⟨payload, hpayload, rfl⟩ := exists_payload h
    rw [← (DatabaseTxDraft.ids_of_payload hpayload).1]
    rfl
  | user d =>
    obtain ⟨payload, hpayload, rfl⟩ := exists_payload h
    rw [← (UserTxDraft.ids_of_payload hpayload).1]
    rfl
  | config d =>
    obtain ⟨payload, hpayload, rfl⟩ := exists_payload h
    rw [← (ConfigTxDraft.ids_of_payload hpayload).1]
    rfl

namespace Session

/-- In a session with JSON as its encoding, the signed bytes determine what was signed and what for:
statements with the same bytes are equal, so none for another purpose has these bytes. Such
statements are all that is signed: each request of an operation has the signature of the statement
for one of its paths, and each envelope that a draft makes has the signature of its own statement. -/
theorem statement_of_signedBytes {s : Session} (hs : s.scheme.encoding = .json) :
  (∀ v v' : Statement, v.bytes s.scheme = v'.bytes s.scheme → v = v')
    ∧ (∀ (op : Operation) (l : Link), ∃ requests, (op.dialogue s).Sends l requests
        ∧ ∀ request ∈ requests, ∃ path ∈ op.paths, ∃ url,
          request = .query url s.userId (s.signer.sign ((s.queryStatement path).bytes s.scheme)))
    ∧ ∀ (d : Draft) (txId : String) (e : Envelope), d.envelope s.scheme s.signer txId = .ok e →
        e.statement.purpose = .submission d.kind
          ∧ e.signatures = [(s.userId, s.signer.sign (e.statement.bytes s.scheme))]
  := by
  constructor
  · intro v v'
    apply Statement.eq_of_bytes hs
  constructor
  · intro op l
    obtain ⟨requests, hsends, -, hall⟩ := Operation.exchanges_dialogue s op l
    use requests, hsends
    intro request hrequest
    obtain ⟨path, hpath, replica, -, url, -, he⟩ := hall request hrequest
    exact ⟨path, hpath, url, he⟩
  · intro d txId e h
    rw [e.purpose_statement, (Draft.envelope_eq_ok h).1]
    exact ⟨rfl, Draft.signatures_of_envelope h⟩

end Session

namespace Statement.Sample

abbrev session : Session where
  signer := ⟨"alice\",\"tx_id\":\"tx", List.replicate 32 1⟩
  replicas := []
  policy := .firstAvailable
  trusted := ⟨.empty⟩
  commitTimeout := .ofSeconds 1
  queryTimeout := none
  scheme := ⟨.sha256, .json, .indexBits⟩

/-- The statement for a transaction that creates a database. -/
def creation : Statement := ⟨.submission .database, ⟨"alice", "tx", ["db"], []⟩⟩

end Statement.Sample

/-- A user whose name is made to look like a member cannot ask for a path with the signature of a
transaction. -/
theorem Session.statement_of_signedBytes_sample :
  Statement.Sample.session.scheme.encoding = .json
    ∧ ∀ path, (Statement.Sample.session.queryStatement path).bytes Statement.Sample.session.scheme
      ≠ Statement.Sample.creation.bytes Statement.Sample.session.scheme
  := by
  use rfl
  intro path h
  obtain ⟨hsame, -⟩ := statement_of_signedBytes (s := Statement.Sample.session) rfl
  exact nomatch congrArg Statement.purpose (hsame _ _ h)

end LedgerTrust
