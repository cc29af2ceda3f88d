import LedgerTrust.Ledger.Scheme

/-!
# Transactions and their envelopes

Four kinds of transactions exist: on the data of databases, on the set of databases, on the
users, and on the configuration of the cluster. An `Envelope` is a transaction with the
signatures of those who submit it: several for a data transaction, one for any other.
-/

namespace LedgerTrust

/-! ### Parts of payloads -/

/-- The place at which a value was committed. -/
structure Version where
  block : UInt64
  tx : UInt64
  deriving DecidableEq, Repr

def Version.codec : Codec Version :=
  .record (fun v => (v.block, v.tx, ())) (fun (b, t, _) => ⟨b, t⟩)
    (.required "block_num" .u64 (.required "tx_num" .u64 .done))

/-- Who may read a value, and who may read and write it. -/
structure AccessControl where
  readers : TextSet
  writers : TextSet
  deriving DecidableEq

def AccessControl.codec : Codec AccessControl :=
  .record (fun v => (v.readers, v.writers, ())) (fun (r, w, _) => ⟨r, w⟩)
    (.required "read_users" .textSet (.required "read_write_users" .textSet .done))

/-- A key that was read, and the version found there. -/
structure DataRead where
  key : String
  version : Option Version
  deriving DecidableEq

def DataRead.codec : Codec DataRead :=
  .record (fun v => (v.key, v.version, ())) (fun (k, v, _) => ⟨k, v⟩)
    (.required "key" .text (.optional "version" Version.codec .done))

/-- A key that is written. -/
structure DataWrite where
  key : String
  value : Bytes
  acl : Option AccessControl
  deriving DecidableEq

def DataWrite.codec : Codec DataWrite :=
  .record (fun v => (v.key, v.value, v.acl, ())) (fun (k, v, a, _) => ⟨k, v, a⟩)
    (.required "key" .text (.required "value" .base64Bytes
      (.optional "acl" AccessControl.codec .done)))

/-- A key that is deleted. -/
structure DataDelete where
  key : String
  deriving DecidableEq

def DataDelete.codec : Codec DataDelete :=
  .record (fun v => (v.key, ())) (fun (k, _) => ⟨k⟩) (.required "key" .text .done)

/-- What a data transaction does to one database. -/
structure DatabaseOperations where
  database : String
  reads : List DataRead
  writes : List DataWrite
  deletes : List DataDelete
  deriving DecidableEq

def DatabaseOperations.codec : Codec DatabaseOperations :=
  .record (fun v => (v.database, v.reads, v.writes, v.deletes, ()))
    (fun (n, r, w, d, _) => ⟨n, r, w, d⟩)
    (.required "db_name" .text (.required "data_reads" (.list DataRead.codec)
      (.required "data_writes" (.list DataWrite.codec)
        (.required "data_deletes" (.list DataDelete.codec) .done))))

/-- What a user may do with a database. -/
inductive Permission where
  | read
  | readWrite
  deriving DecidableEq, Repr

def Permission.all : List Permission := [.read, .readWrite]

def Permission.name : Permission → String
  | .read => "read"
  | .readWrite => "read_write"

/-- A user of the ledger. -/
structure User where
  id : String
  publicKey : Bytes
  permissions : TextMap Permission
  admin : Bool
  deriving DecidableEq

def User.codec : Codec User :=
  .record (fun v => (v.id, v.publicKey, v.permissions, v.admin, ()))
    (fun (i, k, p, a, _) => ⟨i, k, p, a⟩)
    (.required "id" .text (.required "public_key" .hexBytes
      (.required "db_permissions" (.textMap (.enumeration Permission.all Permission.name))
        (.required "admin" .bool .done))))

/-- A user who was read, and the version found there. -/
structure UserRead where
  userId : String
  version : Option Version
  deriving DecidableEq

def UserRead.codec : Codec UserRead :=
  .record (fun v => (v.userId, v.version, ())) (fun (u, v, _) => ⟨u, v⟩)
    (.required "user_id" .text (.optional "version" Version.codec .done))

/-- A user who is written. -/
structure UserWrite where
  user : User
  acl : Option AccessControl
  deriving DecidableEq

def UserWrite.codec : Codec UserWrite :=
  .record (fun v => (v.user, v.acl, ())) (fun (u, a, _) => ⟨u, a⟩)
    (.required "user" User.codec (.optional "acl" AccessControl.codec .done))

/-- A user who is deleted. -/
structure UserDelete where
  userId : String
  deriving DecidableEq

def UserDelete.codec : Codec UserDelete :=
  .record (fun v => (v.userId, ())) (fun (u, _) => ⟨u⟩) (.required "user_id" .text .done)

/-- A node of the cluster. -/
structure NodeConfig where
  id : String
  address : String
  port : UInt16
  publicKey : Bytes
  deriving DecidableEq

def NodeConfig.codec : Codec NodeConfig :=
  .record (fun v => (v.id, v.address, v.port, v.publicKey, ()))
    (fun (i, a, p, k, _) => ⟨i, a, p, k⟩)
    (.required "id" .text (.required "address" .text (.required "port" .u16
      (.required "public_key" .hexBytes .done))))

/-- An administrator of the cluster. -/
structure Admin where
  id : String
  publicKey : Bytes
  deriving DecidableEq

def Admin.codec : Codec Admin :=
  .record (fun v => (v.id, v.publicKey, ())) (fun (i, k, _) => ⟨i, k⟩)
    (.required "id" .text (.required "public_key" .hexBytes .done))

/-- The configuration of the cluster. -/
structure ClusterConfig where
  nodes : List NodeConfig
  admins : List Admin
  deriving DecidableEq

def ClusterConfig.codec : Codec ClusterConfig :=
  .record (fun v => (v.nodes, v.admins, ())) (fun (n, a, _) => ⟨n, a⟩)
    (.required "nodes" (.list NodeConfig.codec) (.required "admins" (.list Admin.codec) .done))

/-! ### Payloads -/

/-- A transaction on the data of databases. -/
structure DataTx where
  mustSign : List String
  txId : String
  operations : List DatabaseOperations
  deriving DecidableEq

def DataTx.codec : Codec DataTx :=
  .record (fun v => (v.mustSign, v.txId, v.operations, ())) (fun (m, t, o, _) => ⟨m, t, o⟩)
    (.required "must_sign_user_ids" (.list .text) (.required "tx_id" .text
      (.required "db_operations" (.list DatabaseOperations.codec) .done)))

/-- A transaction on the set of databases. -/
structure DatabaseTx where
  userId : String
  txId : String
  create : List String
  delete : List String
  deriving DecidableEq

def DatabaseTx.codec : Codec DatabaseTx :=
  .record (fun v => (v.userId, v.txId, v.create, v.delete, ()))
    (fun (u, t, c, d, _) => ⟨u, t, c, d⟩)
    (.required "user_id" .text (.required "tx_id" .text
      (.required "create_dbs" (.list .text) (.required "delete_dbs" (.list .text) .done))))

/-- A transaction on the users. -/
structure UserTx where
  userId : String
  txId : String
  reads : List UserRead
  writes : List UserWrite
  deletes : List UserDelete
  deriving DecidableEq

def UserTx.codec : Codec UserTx :=
  .record (fun v => (v.userId, v.txId, v.reads, v.writes, v.deletes, ()))
    (fun (u, t, r, w, d, _) => ⟨u, t, r, w, d⟩)
    (.required "user_id" .text (.required "tx_id" .text
      (.required "user_reads" (.list UserRead.codec)
        (.required "user_writes" (.list UserWrite.codec)
          (.required "user_deletes" (.list UserDelete.codec) .done)))))

/-- A transaction on the configuration of the cluster. -/
structure ConfigTx where
  userId : String
  txId : String
  readVersion : Option Version
  newConfig : ClusterConfig
  deriving DecidableEq

def ConfigTx.codec : Codec ConfigTx :=
  .record (fun v => (v.userId, v.txId, v.readVersion, v.newConfig, ()))
    (fun (u, t, v, c, _) => ⟨u, t, v, c⟩)
    (.required "user_id" .text (.required "tx_id" .text
      (.optional "read_old_config_version" Version.codec
        (.required "new_config" ClusterConfig.codec .done))))

/-! ### Envelopes -/

/-- A data transaction with a signature of each user who signs it. -/
structure DataEnvelope where
  payload : DataTx
  signatures : TextMap Bytes
  deriving DecidableEq

def DataEnvelope.codec : Codec DataEnvelope :=
  .record (fun v => (v.payload, v.signatures, ())) (fun (p, s, _) => ⟨p, s⟩)
    (.required "payload" DataTx.codec (.required "signatures" (.textMap .base64Bytes) .done))

/-- A payload with the signature of the user who submits it. -/
structure SignedPayload (α : Type) where
  payload : α
  signature : Bytes
  deriving DecidableEq

def SignedPayload.codec {α : Type} (c : Codec α) : Codec (SignedPayload α) :=
  .record (fun v => (v.payload, v.signature, ())) (fun (p, s, _) => ⟨p, s⟩)
    (.required "payload" c (.required "signature" .base64Bytes .done))

/-- The kinds of transactions. -/
inductive TxKind where
  | data
  | database
  | user
  | config
  deriving DecidableEq, Repr

/-- A signed transaction as it is submitted. -/
inductive Envelope where
  | data (envelope : DataEnvelope)
  | database (envelope : SignedPayload DatabaseTx)
  | user (envelope : SignedPayload UserTx)
  | config (envelope : SignedPayload ConfigTx)
  deriving DecidableEq

namespace TxKind

def all : List TxKind := [.data, .database, .user, .config]

/-- The name of the kind in the JSON form of an envelope. -/
def tag : TxKind → String
  | .data => "Data"
  | .database => "DbAdministration"
  | .user => "UserAdministration"
  | .config => "Config"

/-- The name of the kind in reports. -/
def label : TxKind → String
  | .data => "data"
  | .database => "db_administration"
  | .user => "user_administration"
  | .config => "config"

/-- The name of the kind in messages. -/
def title : TxKind → String
  | .data => "data"
  | .database => "db administration"
  | .user => "user administration"
  | .config => "config"

end TxKind

namespace Envelope

def kind : Envelope → TxKind
  | .data _ => .data
  | .database _ => .database
  | .user _ => .user
  | .config _ => .config

/-- The identifier of the transaction. -/
def txId : Envelope → String
  | .data e => e.payload.txId
  | .database e => e.payload.txId
  | .user e => e.payload.txId
  | .config e => e.payload.txId

/-- The written form of the envelope without its kind. -/
def content (f : Encoding) : Envelope → Bytes
  | .data e => f.write DataEnvelope.codec e
  | .database e => f.write (SignedPayload.codec DatabaseTx.codec) e
  | .user e => f.write (SignedPayload.codec UserTx.codec) e
  | .config e => f.write (SignedPayload.codec ConfigTx.codec) e

/-- The canonical bytes of an envelope, which do not tell its kind: they are the body that is
submitted, and the first part of what is hashed for the leaf of the transaction. -/
def canonicalBytes (s : Scheme) (e : Envelope) : Bytes := e.content s.encoding

/-- The envelope of a kind with the content of a JSON text. -/
def ofTagged? (kind : TxKind) (t : Bytes) : Option Envelope :=
  match kind with
  | .data => (DataEnvelope.codec.json? t).map .data
  | .database => ((SignedPayload.codec DatabaseTx.codec).json? t).map .database
  | .user => ((SignedPayload.codec UserTx.codec).json? t).map .user
  | .config => ((SignedPayload.codec ConfigTx.codec).json? t).map .config

/-- The envelope of a kind with the content at the start of a binary form. -/
def ofNumbered? (kind : TxKind) (b : Bytes) : Option (Envelope × Bytes) :=
  match kind with
  | .data => (DataEnvelope.codec.binary? b).map fun (e, r) => (.data e, r)
  | .database =>
    ((SignedPayload.codec DatabaseTx.codec).binary? b).map fun (e, r) => (.database e, r)
  | .user => ((SignedPayload.codec UserTx.codec).binary? b).map fun (e, r) => (.user e, r)
  | .config => ((SignedPayload.codec ConfigTx.codec).binary? b).map fun (e, r) => (.config e, r)

/-- Envelopes with their kind: in JSON an object with the tag of the kind as its only key, in
binary a word of four bytes with the number of the kind in front. -/
def codec : Codec Envelope where
  json e := Json.object [(e.kind.tag, e.content .json)]
  json? t :=
    match Json.members? t with
    | some [(tag, content)] => do ofTagged? (← TxKind.all.find? (·.tag = tag)) content
    | _ => none
  binary e := Bytes.littleEndian 4 (TxKind.all.idxOf e.kind) ++ e.content .binary
  binary? b := do
    let (i, r) ← Codec.takeWord? 4 b
    ofNumbered? (← TxKind.all[i]?) r

end Envelope

end LedgerTrust
