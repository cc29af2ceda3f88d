import LedgerTrust.Draft.Config
import LedgerTrust.Draft.Data
import LedgerTrust.Draft.Database
import LedgerTrust.Draft.User

/-!
# Drafts

A `Draft` is a draft of a transaction of one of the four kinds, and an `Edit` a change to a
draft of one kind. A draft never changes its kind.
-/

namespace LedgerTrust

/-- A draft of a transaction. -/
inductive Draft where
  | data (draft : DataDraft)
  | database (draft : DatabaseTxDraft)
  | user (draft : UserTxDraft)
  | config (draft : ConfigTxDraft)
  deriving DecidableEq

/-- A change to a draft. -/
inductive Edit where
  | data (edit : DataEdit)
  | database (edit : DatabaseTxEdit)
  | user (edit : UserTxEdit)
  | config (edit : ConfigTxEdit)
  deriving DecidableEq

/-- The kind of the drafts that a change is for. -/
def Edit.kind : Edit → TxKind
  | .data _ => .data
  | .database _ => .database
  | .user _ => .user
  | .config _ => .config

/-- The path to which transactions of a kind are submitted. -/
def TxKind.submitPath : TxKind → String
  | .data => "/data/tx"
  | .database => "/db/tx"
  | .user => "/user/tx"
  | .config => "/config/tx"

namespace Draft

/-- The draft of a kind in which nothing is done. -/
def empty : TxKind → Draft
  | .data => .data .empty
  | .database => .database .empty
  | .user => .user .empty
  | .config => .config .empty

def kind : Draft → TxKind
  | .data _ => .data
  | .database _ => .database
  | .user _ => .user
  | .config _ => .config

/-- The draft after a change; there is none if the change is for another kind. -/
def edited? : Draft → Edit → Option Draft
  | .data d, .data e => some (.data (d.apply e))
  | .database d, .database e => some (.database (d.apply e))
  | .user d, .user e => some (.user (d.apply e))
  | .config d, .config e => some (.config (d.apply e))
  | _, _ => none

/-- The transaction with the signature of the signer. -/
def envelope (d : Draft) (scheme : Scheme) (signer : Signer) (txId : String) :
    Except ComposeError Envelope :=
  match d with
  | .data d => d.envelope scheme signer txId
  | .database d => d.envelope scheme signer txId
  | .user d => d.envelope scheme signer txId
  | .config d => d.envelope scheme signer txId

end Draft

end LedgerTrust
