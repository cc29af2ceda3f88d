import LedgerTrust.Session.Config

/-!
# Sessions

A `Session` is what a user needs to work with the ledger: a signer, replicas, trusted keys, times
and the scheme. `Session.ofConfig` opens one under a sound configuration and otherwise reports
the first fault. A `Link` is what changes while sessions are in use: whose turn it is among the
replicas, and the line to them.
-/

namespace LedgerTrust

/-- A user's session with the ledger. -/
structure Session where
  signer : Signer
  replicas : List Replica
  policy : ReplicaPolicy
  trusted : KeyTable
  commitTimeout : Duration
  queryTimeout : Option Duration
  scheme : Scheme

namespace Session

/-- The replicas of a configuration. -/
def replicasOf (configs : List ReplicaConfig) : Except ConfigError (List Replica) :=
  configs.mapM fun c =>
    match Replica.ofText c.id c.url with
    | .ok r => .ok r
    | .error cause => .error (.invalidUrl c.url cause)

/-- The keys of a configuration. -/
def keysOf (nodes : List TrustedNode) : Except ConfigError KeyTable :=
  (KeyTable.ofTexts (nodes.map fun n => (n.id, n.publicKey))).mapError .key

/-- The session of a signer. -/
def ofConfig (connection : ConnectionConfig) (config : SessionConfig) (signer : Signer) :
    Except ConfigError Session := do
  connection.validate
  config.validate
  if signer.userId ≠ config.userId then
    throw (.invalid (.foreignKey signer.userId config.userId))
  let replicas ← replicasOf connection.replicas
  let trusted ← keysOf connection.trustedNodes
  return {
    signer := signer
    replicas := replicas
    policy := connection.policy
    trusted := trusted
    commitTimeout := config.commitTimeout
    queryTimeout := config.queryDeadline
    scheme := connection.scheme }

/-- The session of the user whose key file has the given content. -/
def connect (connection : ConnectionConfig) (config : SessionConfig) (keyFile : Option Bytes) :
    Except ConfigError Session := do
  config.validate
  let signer ← (Signer.ofFile config.userId config.keyPath keyFile).mapError .key
  ofConfig connection config signer

def userId (s : Session) : String := s.signer.userId

end Session

/-- Whose turn it is among the replicas, and the line to them. -/
structure Link where
  turn : UInt64
  line : Line

namespace Link

/-- The link of a session in which nothing was done yet. -/
def start (deliveries : List Delivery) : Link := ⟨0, Line.start deliveries⟩

/-- The replica for the next request of a session, and the link after its selection. -/
def select (l : Link) (s : Session) : Option Replica × Link :=
  ((s.policy.select l.turn s.replicas).1, { l with turn := (s.policy.select l.turn s.replicas).2 })

/-- What a request leads to, if it comes in time, and the link after the wait for it. -/
def exchange (l : Link) (request : Request) (deadline : Option Nat) :
    Option (Except TransportError Reply) × Link :=
  ((l.line.exchange request deadline).1, { l with line := (l.line.exchange request deadline).2 })

/-- The selection of a replica leaves the line as it is. -/
@[simp]
theorem line_select (l : Link) (s : Session) :
  (l.select s).2.line = l.line
  := rfl

/-- An exchange sends its request and nothing else. -/
@[simp]
theorem sent_exchange (l : Link) (request : Request) (deadline : Option Nat) :
  (l.exchange request deadline).2.line.sent = l.line.sent ++ [request]
  := rfl

end Link

end LedgerTrust
