import LedgerTrust.Draft.Signing

/-!
# Drafts of user administration

A `UserTxDraft` collects the users who were read, those to write and those to delete. Of the
writes and deletes of a user the last one counts.
-/

namespace LedgerTrust

/-- A change to a draft of user administration. -/
inductive UserTxEdit where
  | read (userId : String) (version : Option Version)
  | put (user : User) (acl : Option AccessControl)
  | delete (userId : String)
  deriving DecidableEq

/-- A draft of user administration. -/
structure UserTxDraft where
  reads : TextMap (Option Version)
  writes : TextMap UserWrite
  deletes : TextSet
  deriving DecidableEq

namespace UserTxDraft

def empty : UserTxDraft := ⟨.empty, .empty, .empty⟩

/-- The draft after a change. -/
def apply (d : UserTxDraft) : UserTxEdit → UserTxDraft
  | .read userId version => { d with reads := d.reads.insert userId version }
  | .put user acl =>
    { d with writes := d.writes.insert user.id ⟨user, acl⟩, deletes := d.deletes.erase user.id }
  | .delete userId =>
    { d with writes := d.writes.erase userId, deletes := d.deletes.add userId }

/-- The transaction of a user. -/
def payload (d : UserTxDraft) (txId userId : String) : Except ComposeError UserTx :=
  if d.writes.keys.isEmpty ∧ d.deletes.keys.isEmpty then .error .noUsers
  else .ok {
    userId := userId
    txId := txId
    reads := d.reads.entries.map fun (id, version) => ⟨id, version⟩
    writes := d.writes.values
    deletes := d.deletes.keys.map UserDelete.mk }

/-- The transaction with the signature of the signer. -/
def envelope (d : UserTxDraft) (scheme : Scheme) (signer : Signer) (txId : String) :
    Except ComposeError Envelope := do
  let payload ← d.payload txId signer.userId
  return .user (.signed scheme signer UserTx.codec payload)

end UserTxDraft

end LedgerTrust
