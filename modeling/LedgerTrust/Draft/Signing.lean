import LedgerTrust.Identity.Signer
import LedgerTrust.Ledger.Transaction

/-!
# Composing signed payloads

A draft becomes an envelope when its payload is signed; a `ComposeError` says why a draft is no
transaction.
-/

namespace LedgerTrust

/-- Why a draft is no transaction. -/
inductive ComposeError where
  | noOperations
  | createdAndDeleted (database : String)
  | noDatabases
  | noUsers
  | noNodes
  | noAdmins
  deriving DecidableEq, Repr

def ComposeError.message : ComposeError → String
  | .noOperations => "data transaction has no operations"
  | .createdAndDeleted database => "database " ++ database ++ " is both created and deleted"
  | .noDatabases => "db administration transaction is empty"
  | .noUsers => "user administration transaction is empty"
  | .noNodes => "cluster config must contain at least one node"
  | .noAdmins => "cluster config must contain at least one admin"

/-- The signature of the canonical bytes of a value. -/
def Signer.signValue {α : Type} (signer : Signer) (scheme : Scheme) (c : Codec α) (v : α) :
    Bytes :=
  signer.sign (scheme.encode c v)

/-- A payload with the signature of a signer. -/
def SignedPayload.signed {α : Type} (scheme : Scheme) (signer : Signer) (c : Codec α)
    (payload : α) : SignedPayload α :=
  ⟨payload, signer.signValue scheme c payload⟩

end LedgerTrust
