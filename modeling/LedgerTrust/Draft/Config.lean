import LedgerTrust.Draft.Signing

/-!
# Drafts of cluster configuration

A `ConfigTxDraft` is a configuration to replace the one of the cluster by, and the version at
which the latter was read. A node or an administrator that is added takes the place of the one
with the same name.
-/

namespace LedgerTrust

/-- A change to a draft of cluster configuration. -/
inductive ConfigTxEdit where
  | load (config : ClusterConfig) (version : Version)
  | addNode (node : NodeConfig)
  | removeNode (id : String)
  | addAdmin (admin : Admin)
  | removeAdmin (id : String)
  deriving DecidableEq

/-- A draft of cluster configuration. -/
structure ConfigTxDraft where
  readVersion : Option Version
  config : ClusterConfig
  deriving DecidableEq

namespace ConfigTxDraft

def empty : ConfigTxDraft := ⟨none, ⟨[], []⟩⟩

/-- The draft with other nodes. -/
def withNodes (d : ConfigTxDraft) (nodes : List NodeConfig) : ConfigTxDraft :=
  { d with config := { d.config with nodes := nodes } }

/-- The draft with other administrators. -/
def withAdmins (d : ConfigTxDraft) (admins : List Admin) : ConfigTxDraft :=
  { d with config := { d.config with admins := admins } }

/-- The draft after a change. -/
def apply (d : ConfigTxDraft) : ConfigTxEdit → ConfigTxDraft
  | .load config version => ⟨some version, config⟩
  | .addNode node => d.withNodes (d.config.nodes.filter (·.id ≠ node.id) ++ [node])
  | .removeNode id => d.withNodes (d.config.nodes.filter (·.id ≠ id))
  | .addAdmin admin => d.withAdmins (d.config.admins.filter (·.id ≠ admin.id) ++ [admin])
  | .removeAdmin id => d.withAdmins (d.config.admins.filter (·.id ≠ id))

/-- The transaction of a user. -/
def payload (d : ConfigTxDraft) (txId userId : String) : Except ComposeError ConfigTx :=
  if d.config.nodes.isEmpty then .error .noNodes
  else if d.config.admins.isEmpty then .error .noAdmins
  else .ok ⟨userId, txId, d.readVersion, d.config⟩

/-- The transaction with the signature of the signer. -/
def envelope (d : ConfigTxDraft) (scheme : Scheme) (signer : Signer) (txId : String) :
    Except ComposeError Envelope := do
  let payload ← d.payload txId signer.userId
  return .config (.signed scheme signer ConfigTx.codec payload)

end ConfigTxDraft

end LedgerTrust
