import LedgerTrust.Data.Duration
import LedgerTrust.Identity.Signer
import LedgerTrust.Ledger.Scheme
import LedgerTrust.Net.Replica

/-!
# Configuration

A `ConnectionConfig` says where the replicas are, which nodes are trusted and under which scheme
the ledger is written; a `SessionConfig` says who the user is and how long to wait. Both are
JSON files. The first thing that is wrong with one is reported: that there is no file, that it
cannot be read, or what `fault?` finds.
-/

namespace LedgerTrust

/-- What is wrong with a configuration that can be read. -/
inductive ConfigFault where
  | noReplicas
  | noTrustedNodes
  | duplicateReplica (id : String)
  | noUser
  | noCommitTimeout
  | foreignKey (signer user : String)
  deriving DecidableEq, Repr

def ConfigFault.message : ConfigFault → String
  | .noReplicas => "no replicas configured"
  | .noTrustedNodes => "no trusted nodes configured"
  | .duplicateReplica id => "duplicate replica id " ++ id
  | .noUser => "user_id is empty"
  | .noCommitTimeout => "commit timeout must be positive"
  | .foreignKey signer user =>
    "signing key belongs to " ++ signer ++ ", session is for " ++ user

/-- Why there is no configuration, or no session under one. -/
inductive ConfigError where
  | missingFile (path : String)
  | unreadableFile (path : String)
  | invalid (fault : ConfigFault)
  | invalidUrl (url : String) (cause : Url.ParseError)
  | key (cause : SignatureError)
  deriving DecidableEq, Repr

def ConfigError.message : ConfigError → String
  | .missingFile path => "failed to read " ++ path
  | .unreadableFile path => "failed to parse " ++ path
  | .invalid fault => "invalid configuration: " ++ fault.message
  | .invalidUrl url cause => "invalid replica url " ++ url ++ ": " ++ cause.message
  | .key cause => "key error: " ++ cause.message

/-- The message of the error that led to this one. -/
def ConfigError.causeMessage? : ConfigError → Option String
  | .key cause => some cause.message
  | _ => none

/-- The value in a file with the given content. -/
def loadFile {α : Type} (c : Codec α) (path : String) (content : Option Bytes) :
    Except ConfigError α :=
  match content with
  | none => .error (.missingFile path)
  | some b =>
    match c.ofJson? b with
    | none => .error (.unreadableFile path)
    | some v => .ok v

/-! ### Connections -/

/-- A replica as it is configured. -/
structure ReplicaConfig where
  id : String
  url : String
  deriving DecidableEq, Repr

def ReplicaConfig.codec : Codec ReplicaConfig :=
  .record (fun v => (v.id, v.url, ())) (fun (i, u, _) => ⟨i, u⟩)
    (.required "id" .text (.required "url" .text .done))

/-- A node that is trusted to sign replies, and the text of its key. -/
structure TrustedNode where
  id : String
  publicKey : String
  deriving DecidableEq, Repr

def TrustedNode.codec : Codec TrustedNode :=
  .record (fun v => (v.id, v.publicKey, ())) (fun (i, k, _) => ⟨i, k⟩)
    (.required "id" .text (.required "public_key" .text .done))

/-- Where the ledger is and whom to trust. -/
structure ConnectionConfig where
  replicas : List ReplicaConfig
  trustedNodes : List TrustedNode
  policy : ReplicaPolicy
  scheme : Scheme
  deriving DecidableEq, Repr

namespace ConnectionConfig

def codec : Codec ConnectionConfig :=
  .record (fun v => (v.replicas, v.trustedNodes, v.policy, v.scheme, ()))
    (fun (r, t, p, s, _) => ⟨r, t, p, s⟩)
    (.required "replicas" (.list ReplicaConfig.codec)
      (.required "trusted_nodes" (.list TrustedNode.codec)
        (.defaulted "replica_policy" ReplicaPolicy.codec .firstAvailable
          (.defaulted "scheme" Scheme.codec .version1 .done))))

/-- The first text of a list that repeats an earlier one. -/
def firstRepeated? : List String → List String → Option String
  | _, [] => none
  | seen, t :: r => if t ∈ seen then some t else firstRepeated? (t :: seen) r

/-- The first fault of a connection. -/
def fault? (c : ConnectionConfig) : Option ConfigFault :=
  if c.replicas.isEmpty then some .noReplicas
  else if c.trustedNodes.isEmpty then some .noTrustedNodes
  else (firstRepeated? [] (c.replicas.map (·.id))).map .duplicateReplica

/-- Accepts a connection without a fault. -/
def validate (c : ConnectionConfig) : Except ConfigError Unit :=
  match c.fault? with
  | some fault => .error (.invalid fault)
  | none => .ok ()

/-- The connection in a file with the given content. -/
def load (path : String) (content : Option Bytes) : Except ConfigError ConnectionConfig := do
  let c ← loadFile codec path content
  c.validate
  return c

end ConnectionConfig

/-! ### Sessions -/

/-- Who the user is and how long to wait. -/
structure SessionConfig where
  userId : String
  /-- The file with the signing seed of the user. -/
  keyPath : String
  commitTimeout : Duration
  /-- Zero if queries are waited for without end. -/
  queryTimeout : Duration
  deriving DecidableEq, Repr

namespace SessionConfig

/-- How long a commit is waited for where nothing else is configured. -/
def usualCommitTimeout : Duration := .ofSeconds 10

/-- The settings of a user where nothing else is configured. -/
def new (userId keyPath : String) : SessionConfig := ⟨userId, keyPath, usualCommitTimeout, .zero⟩

/-- Durations of less than `2 ^ 64` milliseconds in a file; they are written to the nearest
millisecond. -/
def timeCodec : Codec Duration :=
  .viaMap (fun d => UInt64.ofNat ((d.length + 500000) / 1000000)) .ofMilliseconds .u64

def codec : Codec SessionConfig :=
  .record (fun v => (v.userId, v.keyPath, v.commitTimeout, v.queryTimeout, ()))
    (fun (u, k, c, q, _) => ⟨u, k, c, q⟩)
    (.required "user_id" .text (.required "signing_key_path" .text
      (.defaulted "commit_timeout_ms" timeCodec usualCommitTimeout
        (.defaulted "query_timeout_ms" timeCodec .zero .done))))

/-- The first fault of the settings. -/
def fault? (c : SessionConfig) : Option ConfigFault :=
  if c.userId.isEmpty then some .noUser
  else if c.commitTimeout = .zero then some .noCommitTimeout
  else none

/-- Accepts settings without a fault. -/
def validate (c : SessionConfig) : Except ConfigError Unit :=
  match c.fault? with
  | some fault => .error (.invalid fault)
  | none => .ok ()

/-- The settings in a file with the given content. -/
def load (path : String) (content : Option Bytes) : Except ConfigError SessionConfig := do
  let c ← loadFile codec path content
  c.validate
  return c

/-- How long a query is waited for, if not without end. -/
def queryDeadline (c : SessionConfig) : Option Duration :=
  if c.queryTimeout = .zero then none else some c.queryTimeout

end SessionConfig

end LedgerTrust
