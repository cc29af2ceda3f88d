import LedgerTrust.Draft.Signing

/-!
# Drafts of database administration

A `DatabaseTxDraft` collects the databases to create and those to delete. No database may be
among both.
-/

namespace LedgerTrust

/-- A change to a draft of database administration. -/
inductive DatabaseTxEdit where
  | create (database : String)
  | delete (database : String)
  deriving DecidableEq, Repr

/-- A draft of database administration. -/
structure DatabaseTxDraft where
  create : TextSet
  delete : TextSet
  deriving DecidableEq

namespace DatabaseTxDraft

def empty : DatabaseTxDraft := ⟨.empty, .empty⟩

/-- The draft after a change. -/
def apply (d : DatabaseTxDraft) : DatabaseTxEdit → DatabaseTxDraft
  | .create database => { d with create := d.create.add database }
  | .delete database => { d with delete := d.delete.add database }

/-- The first database that is both created and deleted. -/
def conflict? (d : DatabaseTxDraft) : Option String := d.create.keys.find? d.delete.contains

/-- The transaction of a user. -/
def payload (d : DatabaseTxDraft) (txId userId : String) : Except ComposeError DatabaseTx :=
  match d.conflict? with
  | some database => .error (.createdAndDeleted database)
  | none =>
    if d.create.keys.isEmpty ∧ d.delete.keys.isEmpty then .error .noDatabases
    else .ok ⟨userId, txId, d.create.keys, d.delete.keys⟩

/-- The transaction with the signature of the signer. -/
def envelope (d : DatabaseTxDraft) (scheme : Scheme) (signer : Signer) (txId : String) :
    Except ComposeError Envelope := do
  let payload ← d.payload txId signer.userId
  return .database (.signed scheme signer DatabaseTx.codec payload)

end DatabaseTxDraft

end LedgerTrust
