import LedgerTrust.Data.TextMap
import LedgerTrust.Identity.Key

/-!
# Trusted keys

A `KeyTable` holds one public key per trusted node. `KeyTable.ofTexts` reads all keys before it
looks for repeated names, so the first text that is no key is reported before any repetition.
`KeyTable.verify` accepts a signature only of a listed node, of 64 bytes, and under the key
listed for this node.
-/

namespace LedgerTrust

/-- Why a signature is not accepted, or keys cannot be used. -/
inductive SignatureError where
  | unknownNode (node : String)
  | malformedSignature (length : Nat)
  | invalidSignature (node : String)
  | invalidKey (cause : KeyError)
  | duplicateIdentity (id : String)
  | keyFile (path : String)
  deriving DecidableEq, Repr

def SignatureError.message : SignatureError → String
  | .unknownNode node => "node " ++ node ++ " is not in the trusted key table"
  | .malformedSignature length =>
    "malformed signature: expected 64 bytes, got " ++ toString length
  | .invalidSignature node => "signature verification failed for node " ++ node
  | .invalidKey cause => "invalid key: " ++ cause.message
  | .duplicateIdentity id => "duplicate identity " ++ id
  | .keyFile path => "failed to read key file " ++ path

/-- A check of a signature of a payload by a node: node, payload, signature. -/
abbrev Verifier := String → Bytes → Bytes → Except SignatureError Unit

/-- The keys of the trusted nodes. -/
structure KeyTable where
  keys : TextMap PublicKey
  deriving DecidableEq

namespace KeyTable

/-- The table extended by entries, none of which may repeat a node. -/
def extend (keys : TextMap PublicKey) :
    List (String × PublicKey) → Except SignatureError (TextMap PublicKey)
  | [] => .ok keys
  | (node, key) :: r =>
    if keys.contains node then .error (.duplicateIdentity node)
    else extend (keys.insert node key) r

/-- The table of a list of nodes and keys. -/
def ofKeys (entries : List (String × PublicKey)) : Except SignatureError KeyTable :=
  (extend TextMap.empty entries).map KeyTable.mk

/-- The nodes with the keys that the texts stand for. -/
def parseEntries (entries : List (String × String)) :
    Except SignatureError (List (String × PublicKey)) :=
  entries.mapM fun (node, text) =>
    match PublicKey.parse text with
    | .ok key => .ok (node, key)
    | .error cause => .error (.invalidKey cause)

/-- The table of a list of nodes and texts of keys. -/
def ofTexts (entries : List (String × String)) : Except SignatureError KeyTable := do
  ofKeys (← parseEntries entries)

/-- The number of nodes. -/
def size (t : KeyTable) : Nat := t.keys.size

/-- The check of signatures under the keys of the table. -/
def verify (t : KeyTable) : Verifier := fun node payload signature =>
  match t.keys.get? node with
  | none => .error (.unknownNode node)
  | some key =>
    if signature.length ≠ 64 then .error (.malformedSignature signature.length)
    else if Ed25519.verify key.bytes payload signature then .ok ()
    else .error (.invalidSignature node)

end KeyTable

end LedgerTrust
