import LedgerTrust.Draft.Signing

/-!
# Drafts of data transactions

A `DataDraft` collects what a transaction does to each database that it touches, and who else
must sign. Of the reads of a key the last one counts, and so it is with its writes and deletes.
-/

namespace LedgerTrust

/-- What is done to one database so far. -/
structure DatabaseDraft where
  reads : List DataRead
  writes : List DataWrite
  deletes : List DataDelete
  deriving DecidableEq

namespace DatabaseDraft

def empty : DatabaseDraft := ⟨[], [], []⟩

def isEmpty (d : DatabaseDraft) : Bool := d.reads.isEmpty && d.writes.isEmpty && d.deletes.isEmpty

/-- A key was read; this counts in place of an earlier read. -/
def read (d : DatabaseDraft) (key : String) (version : Option Version) : DatabaseDraft :=
  { d with reads := d.reads.filter (·.key ≠ key) ++ [⟨key, version⟩] }

/-- A key is written; this counts in place of an earlier write or delete. -/
def put (d : DatabaseDraft) (key : String) (value : Bytes) (acl : Option AccessControl) :
    DatabaseDraft :=
  { d with
    writes := d.writes.filter (·.key ≠ key) ++ [⟨key, value, acl⟩]
    deletes := d.deletes.filter (·.key ≠ key) }

/-- A key is deleted; this counts in place of an earlier write. -/
def delete (d : DatabaseDraft) (key : String) : DatabaseDraft :=
  { d with
    writes := d.writes.filter (·.key ≠ key)
    deletes := if d.deletes.any (·.key = key) then d.deletes else d.deletes ++ [⟨key⟩] }

/-- The operations on the database with the given name. -/
def operations (d : DatabaseDraft) (database : String) : DatabaseOperations :=
  ⟨database, d.reads, d.writes, d.deletes⟩

end DatabaseDraft

/-- A change to a draft of a data transaction. -/
inductive DataEdit where
  | read (database key : String) (version : Option Version)
  | put (database key : String) (value : Bytes) (acl : Option AccessControl)
  | delete (database key : String)
  | mustSign (user : String)
  deriving DecidableEq

/-- A draft of a data transaction. -/
structure DataDraft where
  databases : TextMap DatabaseDraft
  mustSign : TextSet
  deriving DecidableEq

namespace DataDraft

def empty : DataDraft := ⟨.empty, .empty⟩

/-- The draft with a change to one database. -/
def onDatabase (d : DataDraft) (database : String) (f : DatabaseDraft → DatabaseDraft) :
    DataDraft :=
  { d with
    databases := d.databases.insert database (f ((d.databases.get? database).getD .empty)) }

/-- The draft after a change. -/
def apply (d : DataDraft) : DataEdit → DataDraft
  | .read database key version => d.onDatabase database (·.read key version)
  | .put database key value acl => d.onDatabase database (·.put key value acl)
  | .delete database key => d.onDatabase database (·.delete key)
  | .mustSign user => { d with mustSign := d.mustSign.add user }

/-- Whether nothing is done to any database. -/
def isEmpty (d : DataDraft) : Bool := d.databases.values.all (·.isEmpty)

/-- The transaction of a user; databases to which nothing is done are left out. -/
def payload (d : DataDraft) (txId userId : String) : Except ComposeError DataTx :=
  if d.isEmpty then .error .noOperations
  else .ok {
    mustSign := (d.mustSign.add userId).keys
    txId := txId
    operations := (d.databases.entries.filter (!·.2.isEmpty)).map
      fun (database, operations) => operations.operations database }

/-- The transaction with the signature of the signer. -/
def envelope (d : DataDraft) (scheme : Scheme) (signer : Signer) (txId : String) :
    Except ComposeError Envelope := do
  let payload ← d.payload txId signer.userId
  let signature := signer.signValue scheme DataTx.codec payload
  return .data ⟨payload, TextMap.empty.insert signer.userId signature⟩

end DataDraft

end LedgerTrust
