import LedgerTrust.Proofs.Identity.KeyTable
import LedgerTrust.Session.Basic

/-!
# What keeps a session from being opened

A connection, the settings of a user, and the signer or the key file are checked one after the
other, and the first fault is reported. The connection and the settings are checked as such before
any URL or key in them is read. With a key file the settings come first, and then the file; they are
checked once more later, but then nothing is found any more.

So a session is opened exactly if everything is sound. It is then the session of the configuration:
its replicas are the configured ones in order, and it trusts what its list of nodes says.
-/

namespace LedgerTrust

/-! ### Connections and settings -/

/-- The fault that is found first is reported, if one is found. -/
theorem eq_error_iff_of_fault? {fault? : Option ConfigFault} {checks : List (ConfigFault → Prop)}
    {e : ConfigError} :
  (∀ fault, fault? = some fault ↔ FailsFirst checks fault) →
    ((match fault? with
      | some fault => .error (.invalid fault)
      | none => .ok () : Except ConfigError Unit) = .error e
      ↔ FailsFirst (checks.map (Reported .invalid)) e)
  := by
  intro h
  simp only [failsFirst_map_reported_iff, ← h]
  cases fault? with
  | none => simp
  | some fault => simp [eq_comm]

namespace ConnectionConfig

/-- The first repeated text is found, after texts that are all different. -/
theorem firstRepeated?_eq_some_iff {found seen texts : List String} {k : String}
    (hseen : seen.Nodup) (hfound : ∀ t, t ∈ found ↔ t ∈ seen) :
  firstRepeated? found texts = some k ↔ FirstRepeated seen texts k
  := by
  induction texts generalizing found seen with
  | nil => simp [firstRepeated?, not_firstRepeated_nil]
  | cons t texts ih =>
    rw [firstRepeated?]
    by_cases ht : t ∈ seen
    · rw [if_pos ((hfound t).2 ht), firstRepeated_cons_of_mem hseen ht, Option.some_inj]
    · rw [if_neg fun h => ht ((hfound t).1 h), firstRepeated_cons_of_not_mem ht]
      apply ih
      · exact hseen.append (List.nodup_singleton t) (by simpa using ht)
      · intro u
        rw [List.mem_cons, hfound, List.mem_append, List.mem_singleton, or_comm]

/-- The checks of a connection: it has replicas and trusted nodes, and its replicas have different
names. -/
def checks (c : ConnectionConfig) : List (ConfigFault → Prop) :=
  [fun fault => c.replicas = [] ∧ fault = .noReplicas,
    fun fault => c.trustedNodes = [] ∧ fault = .noTrustedNodes,
    fun fault => ∃ id, FirstRepeated [] (c.replicas.map (·.id)) id ∧ fault = .duplicateReplica id]

theorem fault?_eq_some_iff {c : ConnectionConfig} {fault : ConfigFault} :
  c.fault? = some fault ↔ FailsFirst c.checks fault
  := by
  unfold fault? checks
  apply ite_eq_some_iff_failsFirst List.isEmpty_iff
  apply ite_eq_some_iff_failsFirst List.isEmpty_iff
  have hrepeated {id : String} := @firstRepeated?_eq_some_iff [] [] (c.replicas.map (·.id)) id
    List.nodup_nil fun _ => Iff.rfl
  simp only [failsFirst_singleton_iff, Option.map_eq_some_iff, hrepeated, @eq_comm _ fault]

theorem allPass_checks_iff {c : ConnectionConfig} :
  AllPass c.checks ↔ c.replicas ≠ [] ∧ c.trustedNodes ≠ [] ∧ (c.replicas.map (·.id)).Nodup
  := by
  simp only [checks, allPass_cons_iff, forall_not_report_iff, nodup_iff]
  simp [allPass_nil]

theorem validate_eq_error_iff {c : ConnectionConfig} {e : ConfigError} :
  c.validate = .error e ↔ FailsFirst (c.checks.map (Reported .invalid)) e
  := eq_error_iff_of_fault? fun _ => fault?_eq_some_iff

end ConnectionConfig

namespace SessionConfig

/-- The checks of settings: they name a user, and a commit is waited for. -/
def checks (c : SessionConfig) : List (ConfigFault → Prop) :=
  [fun fault => c.userId = "" ∧ fault = .noUser,
    fun fault => c.commitTimeout = .zero ∧ fault = .noCommitTimeout]

theorem fault?_eq_some_iff {c : SessionConfig} {fault : ConfigFault} :
  c.fault? = some fault ↔ FailsFirst c.checks fault
  := by
  unfold fault? checks
  apply ite_eq_some_iff_failsFirst String.isEmpty_iff
  apply ite_eq_some_iff_failsFirst Iff.rfl
  simp [not_failsFirst_nil]

theorem allPass_checks_iff {c : SessionConfig} :
  AllPass c.checks ↔ c.userId ≠ "" ∧ c.commitTimeout ≠ .zero
  := by
  simp [checks, allPass_cons_iff, allPass_nil]

theorem validate_eq_error_iff {c : SessionConfig} {e : ConfigError} :
  c.validate = .error e ↔ FailsFirst (c.checks.map (Reported .invalid)) e
  := eq_error_iff_of_fault? fun _ => fault?_eq_some_iff

end SessionConfig

/-! ### Signers -/

namespace Signer

variable {userId path : String} {keyFile : Option Bytes} {signer : Signer}

/-- The checks of a key file: it is a text, and the text is a seed. -/
def checks (path : String) (keyFile : Option Bytes) : List (SignatureError → Prop) :=
  [fun e => keyFile.bind Bytes.toText? = none ∧ e = .keyFile path,
    fun e => ∃ text cause, (keyFile.bind Bytes.toText? = some text ∧ parseSeed text = .error cause)
      ∧ e = .invalidKey cause]

/-- A signer has the seed in a key file. -/
def IsOf (signer : Signer) (userId : String) (keyFile : Option Bytes) : Prop :=
  ∃ text seed, keyFile.bind Bytes.toText? = some text ∧ parseSeed text = .ok seed
    ∧ signer = ⟨userId, seed⟩

theorem ofFile_eq_error_iff {e : SignatureError} :
  ofFile userId path keyFile = .error e ↔ FailsFirst (checks path keyFile) e
  := by
  simp only [checks, failsFirst_cons_iff, not_failsFirst_nil, ofFile]
  cases keyFile.bind Bytes.toText? with
  | none => simp [eq_comm]
  | some text =>
    unfold ofText
    cases hseed : parseSeed text with
    | error cause => simp [hseed, eq_comm]
    | ok seed => simp [hseed]

theorem ofFile_eq_ok_iff :
  ofFile userId path keyFile = .ok signer ↔ signer.IsOf userId keyFile
  := by
  unfold ofFile IsOf
  cases keyFile.bind Bytes.toText? with
  | none => simp
  | some text =>
    unfold ofText
    cases hseed : parseSeed text with
    | error cause => simp [hseed]
    | ok seed => simp [hseed, eq_comm]

end Signer

/-! ### URLs and keys -/

/-- A node with the text of its key. -/
def TrustedNode.entry (node : TrustedNode) : String × String := (node.id, node.publicKey)

/-- A replica is a configured one. -/
def Replica.IsOf (r : Replica) (c : ReplicaConfig) : Prop :=
  r.id = c.id ∧ Url.parse c.url = .ok r.url

namespace Session

/-- A replica as it is configured, or why its text is no URL. -/
def replicaOf (c : ReplicaConfig) : Except ConfigError Replica :=
  match Replica.ofText c.id c.url with
  | .ok r => .ok r
  | .error cause => .error (.invalidUrl c.url cause)

theorem replicasOf_eq_mapM (configs : List ReplicaConfig) :
  replicasOf configs = configs.mapM replicaOf
  := rfl

theorem replicaOf_eq_error_iff {c : ReplicaConfig} {e : ConfigError} :
  replicaOf c = .error e ↔ ∃ cause, Url.parse c.url = .error cause ∧ e = .invalidUrl c.url cause
  := by
  unfold replicaOf Replica.ofText
  cases Url.parse c.url with
  | error cause => simp [Except.map, eq_comm]
  | ok url => simp [Except.map]

theorem replicaOf_eq_ok_iff {c : ReplicaConfig} {r : Replica} :
  replicaOf c = .ok r ↔ r.IsOf c
  := by
  unfold replicaOf Replica.ofText Replica.IsOf
  cases hurl : Url.parse c.url with
  | error cause => simp [Except.map]
  | ok url =>
    cases r
    simp [Except.map, eq_comm]

/-- The check of URLs. -/
def BadUrl (configs : List ReplicaConfig) (e : ConfigError) : Prop :=
  ∃ c cause, FirstError (fun c => Url.parse c.url) configs c cause ∧ e = .invalidUrl c.url cause

theorem replicasOf_eq_error_iff {configs : List ReplicaConfig} {e : ConfigError} :
  replicasOf configs = .error e ↔ BadUrl configs e
  := by
  rw [replicasOf_eq_mapM, mapM_eq_error_iff]
  apply exists_congr
  intro c
  exact firstError_iff_of_reports fun c e => replicaOf_eq_error_iff

theorem replicasOf_eq_ok_iff {configs : List ReplicaConfig} {replicas : List Replica} :
  replicasOf configs = .ok replicas ↔ List.Forall₂ (fun c r => r.IsOf c) configs replicas
  := by
  rw [replicasOf_eq_mapM, mapM_eq_ok_iff]
  simp only [replicaOf_eq_ok_iff]

theorem keysOf_eq_error_iff {nodes : List TrustedNode} {e : ConfigError} :
  keysOf nodes = .error e
    ↔ FailsFirst ((KeyTable.checks (nodes.map TrustedNode.entry)).map (Reported .key)) e
  := by
  simp only [failsFirst_map_reported_iff, ← KeyTable.ofTexts_eq_error_iff]
  exact mapError_eq_error_iff

theorem holds_of_keysOf {nodes : List TrustedNode} {trusted : KeyTable}
    (h : keysOf nodes = .ok trusted) :
  trusted.Holds (nodes.map TrustedNode.entry)
  := KeyTable.holds_of_ofTexts (mapError_eq_ok_iff.1 h)

/-! ### Opening a session -/

variable {connection : ConnectionConfig} {config : SessionConfig} {signer : Signer} {s : Session}

/-- The checks of what a connection is made of: its URLs, and its keys with their nodes. -/
def contentChecks (connection : ConnectionConfig) : List (ConfigError → Prop) :=
  BadUrl connection.replicas
    :: (KeyTable.checks (connection.trustedNodes.map TrustedNode.entry)).map (Reported .key)

theorem allPass_contentChecks_iff :
  AllPass (contentChecks connection)
    ↔ (∀ c ∈ connection.replicas, ∃ url, Url.parse c.url = .ok url)
      ∧ (∀ node ∈ connection.trustedNodes, ∃ key, PublicKey.parse node.publicKey = .ok key)
      ∧ (connection.trustedNodes.map (·.id)).Nodup
  := by
  simp only [contentChecks, BadUrl, allPass_cons_iff, forall_not_report₂_iff,
    allPass_map_reported_iff, KeyTable.allPass_checks_iff, ← forall_exists_ok_iff]
  simp [TrustedNode.entry, Function.comp_def]

/-- The checks with a signer: those of the connection and of the settings, whether these are for the
signer, and the URLs and keys. -/
def ofConfigChecks (connection : ConnectionConfig) (config : SessionConfig) (signer : Signer) :
    List (ConfigError → Prop) :=
  connection.checks.map (Reported .invalid) ++ (config.checks.map (Reported .invalid)
    ++ (fun e => signer.userId ≠ config.userId
        ∧ e = .invalid (.foreignKey signer.userId config.userId))
      :: contentChecks connection)

/-- The checks with a key file: those of the settings, of the file and of the connection, and the
URLs and keys. -/
def connectChecks (connection : ConnectionConfig) (config : SessionConfig)
    (keyFile : Option Bytes) : List (ConfigError → Prop) :=
  config.checks.map (Reported .invalid)
    ++ ((Signer.checks config.keyPath keyFile).map (Reported .key)
      ++ (connection.checks.map (Reported .invalid) ++ contentChecks connection))

/-- The session of a signer under a configuration. -/
structure Reflects (s : Session) (connection : ConnectionConfig) (config : SessionConfig) :
    Prop where
  /-- Its replicas are the configured ones, in order. -/
  replicas : List.Forall₂ (fun c r => r.IsOf c) connection.replicas s.replicas
  policy : s.policy = connection.policy
  /-- It trusts the configured keys, each of its node, and nothing else. -/
  trusted : s.trusted.Holds (connection.trustedNodes.map TrustedNode.entry)
  commitTimeout : s.commitTimeout = config.commitTimeout
  queryTimeout : s.queryTimeout = config.queryDeadline
  scheme : s.scheme = connection.scheme

theorem ofConfig_eq_error_iff {e : ConfigError} :
  ofConfig connection config signer = .error e
    ↔ FailsFirst (ofConfigChecks connection config signer) e
  := by
  apply failsFirst_bind fun e => ConnectionConfig.validate_eq_error_iff
  intro _ _
  apply failsFirst_bind fun e => SessionConfig.validate_eq_error_iff
  intro _ _
  rw [failsFirst_cons_iff]
  split
  · next hforeign =>
    show (.error (.invalid (.foreignKey signer.userId config.userId)) : Except ConfigError Session)
      = .error e ↔ _
    simp [hforeign, eq_comm]
  · next hown =>
    simp only [hown, false_and, not_false_eq_true, implies_true, true_and, false_or]
    rw [contentChecks, ← List.singleton_append]
    apply failsFirst_bind
    · intro e
      rw [failsFirst_singleton_iff, replicasOf_eq_error_iff]
    intro replicas _
    rw [← keysOf_eq_error_iff, bind_eq_error_iff]
    simp [pure, Except.pure]

/-- Settings that were checked, for their own user, are not at fault any more. -/
theorem ofConfig_eq_error_iff_of_validate {e : ConfigError} (hvalid : config.validate = .ok ())
    (hown : signer.userId = config.userId) :
  ofConfig connection config signer = .error e
    ↔ FailsFirst (connection.checks.map (Reported .invalid) ++ contentChecks connection) e
  := by
  have hsettings : AllPass (config.checks.map (Reported ConfigError.invalid)) :=
    (exists_ok_iff_allPass fun e => SessionConfig.validate_eq_error_iff).1 ⟨(), hvalid⟩
  rw [ofConfig_eq_error_iff, ofConfigChecks, failsFirst_append_iff,
    failsFirst_append_of_allPass hsettings, failsFirst_cons_iff, failsFirst_append_iff]
  simp [hown]

theorem connect_eq_error_iff {keyFile : Option Bytes} {e : ConfigError} :
  connect connection config keyFile = .error e
    ↔ FailsFirst (connectChecks connection config keyFile) e
  := by
  apply failsFirst_bind fun e => SessionConfig.validate_eq_error_iff
  intro _ hvalid
  apply failsFirst_bind
  · intro e
    rw [mapError_eq_error_iff, failsFirst_map_reported_iff]
    simp only [Signer.ofFile_eq_error_iff]
  · intro signer hsigner
    obtain ⟨text, seed, -, -, rfl⟩ := Signer.ofFile_eq_ok_iff.1 (mapError_eq_ok_iff.1 hsigner)
    exact ofConfig_eq_error_iff_of_validate hvalid rfl

/-- A connection and settings that were checked are not at fault any more either. -/
theorem connect_eq_error_iff_of_validate {keyFile : Option Bytes} {e : ConfigError}
    (hconnection : connection.validate = .ok ()) (hconfig : config.validate = .ok ()) :
  connect connection config keyFile = .error e
    ↔ FailsFirst ((Signer.checks config.keyPath keyFile).map (Reported .key)
      ++ contentChecks connection) e
  := by
  have hsettings : AllPass (config.checks.map (Reported ConfigError.invalid)) :=
    (exists_ok_iff_allPass fun e => SessionConfig.validate_eq_error_iff).1 ⟨(), hconfig⟩
  have hlinks : AllPass (connection.checks.map (Reported ConfigError.invalid)) :=
    (exists_ok_iff_allPass fun e => ConnectionConfig.validate_eq_error_iff).1 ⟨(), hconnection⟩
  rw [connect_eq_error_iff, connectChecks, failsFirst_append_of_allPass hsettings,
    failsFirst_append_iff, failsFirst_append_of_allPass hlinks, ← failsFirst_append_iff]

theorem reflects_of_ofConfig (h : ofConfig connection config signer = .ok s) :
  s.signer = signer ∧ s.Reflects connection config
  := by
  unfold ofConfig at h
  obtain ⟨-, -, h⟩ := bind_eq_ok_iff.1 h
  obtain ⟨-, -, h⟩ := bind_eq_ok_iff.1 h
  split at h
  · cases h
  · obtain ⟨replicas, hreplicas, h⟩ := bind_eq_ok_iff.1 h
    obtain ⟨trusted, htrusted, h⟩ := bind_eq_ok_iff.1 h
    cases h
    exact ⟨rfl, replicasOf_eq_ok_iff.1 hreplicas, rfl, holds_of_keysOf htrusted, rfl, rfl, rfl⟩

/-- A key file only gives the signer. -/
theorem connect_eq_ok_iff {keyFile : Option Bytes} :
  connect connection config keyFile = .ok s
    ↔ ∃ signer : Signer, signer.IsOf config.userId keyFile
      ∧ ofConfig connection config signer = .ok s
  := by
  unfold connect
  simp only [bind_eq_ok_iff, mapError_eq_ok_iff, Signer.ofFile_eq_ok_iff]
  constructor
  · rintro ⟨-, -, signer, hsigner, hopen⟩
    exact ⟨signer, hsigner, hopen⟩
  · rintro ⟨signer, hsigner, hopen⟩
    obtain ⟨-, -, hrest⟩ := bind_eq_ok_iff.1 hopen
    obtain ⟨hvalid, hconfig, -⟩ := bind_eq_ok_iff.1 hrest
    exact ⟨hvalid, hconfig, signer, hsigner, hopen⟩

/-- Nothing is at fault for a session of a signer. -/
structure Sound (connection : ConnectionConfig) (config : SessionConfig) (signer : Signer) :
    Prop where
  replicas : connection.replicas ≠ []
  trustedNodes : connection.trustedNodes ≠ []
  distinctReplicas : (connection.replicas.map (·.id)).Nodup
  user : config.userId ≠ ""
  commitTimeout : config.commitTimeout ≠ .zero
  own : signer.userId = config.userId
  urls : ∀ c ∈ connection.replicas, ∃ url, Url.parse c.url = .ok url
  keys : ∀ node ∈ connection.trustedNodes, ∃ key, PublicKey.parse node.publicKey = .ok key
  distinctNodes : (connection.trustedNodes.map (·.id)).Nodup

theorem sound_iff :
  Sound connection config signer ↔ AllPass (ofConfigChecks connection config signer)
  := by
  simp only [ofConfigChecks, allPass_append_iff, allPass_cons_iff, allPass_map_reported_iff,
    ConnectionConfig.allPass_checks_iff, SessionConfig.allPass_checks_iff,
    allPass_contentChecks_iff]
  constructor
  · rintro ⟨hreplicas, hnodes, hreplicaIds, huser, hcommit, hown, hurls, hkeys, hnodeIds⟩
    exact ⟨⟨hreplicas, hnodes, hreplicaIds⟩, ⟨huser, hcommit⟩, fun e h => h.1 hown, hurls, hkeys,
      hnodeIds⟩
  · rintro ⟨⟨hreplicas, hnodes, hreplicaIds⟩, ⟨huser, hcommit⟩, hown, hurls, hkeys, hnodeIds⟩
    have hsigner : signer.userId = config.userId :=
      not_not.1 fun hforeign => hown _ ⟨hforeign, rfl⟩
    exact ⟨hreplicas, hnodes, hreplicaIds, huser, hcommit, hsigner, hurls, hkeys, hnodeIds⟩

theorem exists_ofConfig_iff :
  (∃ s, ofConfig connection config signer = .ok s) ↔ Sound connection config signer
  := by
  rw [sound_iff]
  exact exists_ok_iff_allPass fun e => ofConfig_eq_error_iff

/-- What comes of opening a session: it is opened if all is sound for a signer, it is the session of
this signer, and else the error is the one of the first check that fails. -/
structure Opening (connection : ConnectionConfig) (config : SessionConfig) (signs : Signer → Prop)
    (checks : List (ConfigError → Prop)) (result : Except ConfigError Session) : Prop where
  sound : (∃ s, result = .ok s) ↔ ∃ signer, signs signer ∧ Sound connection config signer
  reflects : ∀ s, result = .ok s → signs s.signer ∧ s.Reflects connection config
  fault : ∀ e, result = .error e ↔ FailsFirst checks e

/-- A session is opened if its whole configuration is sound, with a signer and with a key file. -/
theorem opening_ofConfig_connect (connection : ConnectionConfig) (config : SessionConfig) :
  (∀ signer, Opening connection config (· = signer) (ofConfigChecks connection config signer)
      (ofConfig connection config signer))
    ∧ ∀ keyFile, Opening connection config (·.IsOf config.userId keyFile)
      (connectChecks connection config keyFile) (connect connection config keyFile)
  := by
  constructor
  · intro signer
    use by simp [exists_ofConfig_iff]
    · exact fun s h => reflects_of_ofConfig h
    · exact fun e => ofConfig_eq_error_iff
  · intro keyFile
    use by
      simp only [connect_eq_ok_iff, ← exists_ofConfig_iff, ← exists_and_left]
      exact exists_comm
    · intro s h
      obtain ⟨signer, hsigner, hopen⟩ := connect_eq_ok_iff.1 h
      obtain ⟨rfl, hreflects⟩ := reflects_of_ofConfig hopen
      exact ⟨hsigner, hreflects⟩
    · exact fun e => connect_eq_error_iff

namespace Sample

/-- A replica, and a trusted node with the text of its key. -/
def trusting (key : String) : ConnectionConfig where
  replicas := [⟨"node1", "http://127.0.0.1:6001"⟩]
  trustedNodes := [⟨"node1", key⟩]
  policy := .firstAvailable
  scheme := .version1

/-- Whether a session is opened for a user with the text of a seed. -/
def opens (key seed : String) : Except ConfigError Unit :=
  (connect (trusting key) (.new "alice" "key") (some (Bytes.ofText seed))).map fun _ => ()

def keyText : String := "EA4A6C63E29C520ABEF5507B132EC5F9954776AEBEBE7B92421EEA691446D22C"

end Sample

example : Sample.opens Sample.keyText (" " ++ Hex.text (List.replicate 32 1) ++ "\n") = .ok ()
  := by decide +kernel

example :
  Sample.opens Sample.keyText (Hex.text (List.replicate 31 1))
    = .error (.key (.invalidKey .seedLength))
  := by decide +kernel

example :
  Sample.opens (Hex.text (List.replicate 32 2)) (Hex.text (List.replicate 32 1))
    = .error (.key (.invalidKey .notAPoint))
  := by decide +kernel

end Session

end LedgerTrust
