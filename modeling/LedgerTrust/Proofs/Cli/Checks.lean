import LedgerTrust.Cli.Run
import LedgerTrust.Proofs.Session.Fetch
import LedgerTrust.Proofs.Session.Faults

/-!
# What a run checks by itself

A run opens a session from its files, reads the files that its command names, and compares what they
hold with what the command asks for. Then it makes its first query, whose arguments are checked as
well. All of this is decided by the contents of the files: `Invocation.checks` lists the checks in
their order, and each part of a run fails with the error of the first one of its checks that fails.

A check of what a file holds is made only if the file can be read.
-/

namespace LedgerTrust

variable {α ε : Type} {c : Codec α} {e : ε}

/-! ### Files -/

/-- The value in a file with the given content, or else one of two errors. -/
def readFile (c : Codec α) (content : Option Bytes) (missing unreadable : ε) : Except ε α :=
  match content with
  | none => .error missing
  | some b =>
    match c.ofJson? b with
    | none => .error unreadable
    | some v => .ok v

/-- The checks of a file: there is one, and it holds a value. -/
def fileChecks (c : Codec α) (content : Option Bytes) (missing unreadable : ε) :
    List (ε → Prop) :=
  [fun e => content = none ∧ e = missing,
    fun e => (∃ b, content = some b ∧ c.ofJson? b = none) ∧ e = unreadable]

theorem readFile_eq_error_iff {content : Option Bytes} {missing unreadable : ε} :
  readFile c content missing unreadable = .error e
    ↔ FailsFirst (fileChecks c content missing unreadable) e
  := by
  simp only [fileChecks, failsFirst_cons_iff, not_failsFirst_nil, readFile]
  cases content with
  | none => simp [eq_comm]
  | some b =>
    cases hvalue : c.ofJson? b with
    | none => simp [hvalue, eq_comm]
    | some v => simp [hvalue]

theorem readFile_eq_ok_iff {content : Option Bytes} {missing unreadable : ε} {v : α} :
  readFile c content missing unreadable = .ok v ↔ content.bind c.ofJson? = some v
  := by
  unfold readFile
  cases content with
  | none => simp
  | some b =>
    cases hvalue : c.ofJson? b with
    | none => simp [hvalue]
    | some v => simp [hvalue]

/-! ### Configuration -/

section Configuration

variable {path : String} {content : Option Bytes} {e : ConfigError}

/-- The checks of a configuration file: those of the file, and those of what it holds. -/
def loadChecks (c : Codec α) (checks : α → List (ConfigFault → Prop)) (path : String)
    (content : Option Bytes) : List (ConfigError → Prop) :=
  fileChecks c content (.missingFile path) (.unreadableFile path)
    ++ (content.bind c.ofJson?).elim [] fun v => (checks v).map (Reported .invalid)

theorem loadFile_eq_readFile (c : Codec α) (path : String) (content : Option Bytes) :
  loadFile c path content = readFile c content (.missingFile path) (.unreadableFile path)
  := rfl

section Load

variable {validate : α → Except ConfigError Unit}

theorem load_eq_error_iff {checks : α → List (ConfigFault → Prop)}
    (h : ∀ v e, validate v = .error e ↔ FailsFirst ((checks v).map (Reported .invalid)) e) :
  (do let v ← loadFile c path content; validate v; return v) = Except.error e
    ↔ FailsFirst (loadChecks c checks path content) e
  := by
  rw [loadFile_eq_readFile]
  apply failsFirst_bind fun e => readFile_eq_error_iff
  intro v hv
  rw [readFile_eq_ok_iff.1 hv, Option.elim_some, ← h, bind_eq_error_iff]
  simp [pure, Except.pure]

theorem load_eq_ok_iff {v : α} :
  (do let v ← loadFile c path content; validate v; return v) = Except.ok v
    ↔ content.bind c.ofJson? = some v ∧ validate v = .ok ()
  := by
  simp only [loadFile_eq_readFile, bind_eq_ok_iff, readFile_eq_ok_iff]
  constructor
  · rintro ⟨v', hv, _, hvalid, ⟨⟩⟩
    exact ⟨hv, hvalid⟩
  · rintro ⟨hv, hvalid⟩
    exact ⟨v, hv, (), hvalid, rfl⟩

end Load

theorem ConnectionConfig.load_eq_error_iff :
  load path content = .error e ↔ FailsFirst (loadChecks codec checks path content) e
  := LedgerTrust.load_eq_error_iff fun _ _ => validate_eq_error_iff

theorem ConnectionConfig.load_eq_ok_iff {connection : ConnectionConfig} :
  load path content = .ok connection
    ↔ content.bind codec.ofJson? = some connection ∧ connection.validate = .ok ()
  := LedgerTrust.load_eq_ok_iff

theorem SessionConfig.load_eq_error_iff :
  load path content = .error e ↔ FailsFirst (loadChecks codec checks path content) e
  := LedgerTrust.load_eq_error_iff fun _ _ => validate_eq_error_iff

theorem SessionConfig.load_eq_ok_iff {config : SessionConfig} :
  load path content = .ok config
    ↔ content.bind codec.ofJson? = some config ∧ config.validate = .ok ()
  := LedgerTrust.load_eq_ok_iff

end Configuration

/-! ### Arguments of queries -/

/-- The checks of the arguments of a fetch. -/
def Fetch.checks : Fetch → List (QueryError → Prop)
  | .ledgerPath first last =>
    [fun e => Session.isRange first last = false ∧ e = .invalidRange first last]
  | .txReceipt txId => [fun e => Session.isTxId txId = false ∧ e = .invalidTxId txId]
  | .dataProof _ database _ _ =>
    [fun e => Session.isDatabaseName database = false ∧ e = .invalidDatabase database]
  | .verifyValue _ database _ _ _ =>
    [fun e => Session.isDatabaseName database = false ∧ e = .invalidDatabase database]
  | _ => []

theorem Fetch.check_eq_error_iff {f : Fetch} {e : QueryError} :
  f.check = .error e ↔ FailsFirst f.checks e
  := by
  cases f with
  | ledgerPath first last => rw [checks, failsFirst_singleton_iff, check, Session.checked_eq_error]
  | txReceipt txId => rw [checks, failsFirst_singleton_iff, check, Session.checked_eq_error]
  | dataProof block database key isDeleted =>
    rw [checks, failsFirst_singleton_iff, check, Session.checked_eq_error]
  | verifyValue header database key value isDeleted =>
    rw [checks, failsFirst_singleton_iff, check, Session.checked_eq_error]
  -- All others have no arguments that are refused.
  | _ =>
    constructor
    · intro h
      cases h
    · exact fun h => absurd h not_failsFirst_nil

namespace Cli

variable {files : Files} {path : String} {e : RunError}

/-! ### The session -/

/-- What a file holds, if it can be read. -/
def held (files : Files) (c : Codec α) (path : String) : Option α := (files path).bind c.ofJson?

namespace Invocation

/-- The checks of the session: those of the connection file and of the session file, of the file
with the signing seed that the session file names, and of the URLs and the keys that the connection
file lists. -/
def sessionChecks (i : Invocation) (files : Files) : List (RunError → Prop) :=
  (loadChecks ConnectionConfig.codec ConnectionConfig.checks i.connection
      (files i.connection)).map (Reported (.loading i.connection))
    ++ ((loadChecks SessionConfig.codec SessionConfig.checks i.session
        (files i.session)).map (Reported (.loading i.session))
      ++ ((held files SessionConfig.codec i.session).elim []
          (fun config => ((Signer.checks config.keyPath (files config.keyPath)).map
            (Reported .key)).map (Reported .opening))
        ++ (held files ConnectionConfig.codec i.connection).elim []
          fun connection => (Session.contentChecks connection).map (Reported .opening)))

theorem session?_eq_error_iff {i : Invocation} :
  i.session? files = .error e ↔ FailsFirst (i.sessionChecks files) e
  := by
  apply failsFirst_bind
  · intro e
    rw [mapError_eq_error_iff, failsFirst_map_reported_iff]
    simp only [ConnectionConfig.load_eq_error_iff]
  intro connection hloaded
  obtain ⟨hconnection, hlinks⟩ := ConnectionConfig.load_eq_ok_iff.1 (mapError_eq_ok_iff.1 hloaded)
  apply failsFirst_bind
  · intro e
    rw [mapError_eq_error_iff, failsFirst_map_reported_iff]
    simp only [SessionConfig.load_eq_error_iff]
  intro config hloaded
  obtain ⟨hconfig, hsettings⟩ := SessionConfig.load_eq_ok_iff.1 (mapError_eq_ok_iff.1 hloaded)
  rw [held, held, hconnection, hconfig, Option.elim_some, Option.elim_some, ← List.map_append,
    mapError_eq_error_iff, failsFirst_map_reported_iff]
  simp only [Session.connect_eq_error_iff_of_validate hlinks hsettings]

end Invocation

/-! ### Inputs of commands -/

/-- The checks of an input file. -/
def inputChecks (files : Files) (c : Codec α) (path : String) : List (RunError → Prop) :=
  fileChecks c (files path) (.reading path) (.parsing path)

theorem input_eq_readFile (files : Files) (c : Codec α) (path : String) :
  input files c path = readFile c (files path) (.reading path) (.parsing path)
  := rfl

theorem input_eq_error_iff :
  input files c path = .error e ↔ FailsFirst (inputChecks files c path) e
  := by
  rw [input_eq_readFile]
  exact readFile_eq_error_iff

theorem input_eq_ok_iff {v : α} :
  input files c path = .ok v ↔ held files c path = some v
  := by
  rw [input_eq_readFile]
  exact readFile_eq_ok_iff

/-- What was written to a file is read from it. -/
theorem input_of_faithful {v : α} (hc : c.Faithful) (h : files path = some (c.json v)) :
  input files c path = .ok v
  := by
  apply input_eq_ok_iff.2
  rw [held, h, Option.bind_some, hc.ofJson?_json]

/-- The checks of what a proof of a transaction is given: the file of the envelope, the one of the
trusted header, and that the envelope is of this transaction. -/
def transactionChecks (files : Files) (txId envelope anchor : String) : List (RunError → Prop) :=
  inputChecks files Envelope.codec envelope
    ++ (inputChecks files BlockHeader.codec anchor
      ++ [fun e => ∃ v, (held files Envelope.codec envelope = some v ∧ v.txId ≠ txId)
        ∧ e = .otherTransaction v.txId txId])

/-- The checks of what a proof of a value is given: the file of the header, and that it is the one
of this block. -/
def headerChecks (files : Files) (block : UInt64) (path : String) : List (RunError → Prop) :=
  inputChecks files BlockHeader.codec path
    ++ [fun e => ∃ header, (held files BlockHeader.codec path = some header ∧ header.number ≠ block)
      ∧ e = .otherBlock header.number block]

section Compared

variable {differs : Prop} [Decidable differs] {v : α} {fault e : ε}

/-- A value that is compared after it was read. -/
theorem compared_eq_error_iff :
  (do
    if differs then throw fault
    return v : Except ε α) = .error e ↔ differs ∧ e = fault
  := by
  by_cases h : differs
  · rw [if_pos h]
    simp [throw, throwThe, MonadExceptOf.throw, bind, Except.bind, h, eq_comm]
  · rw [if_neg h]
    simp [pure, Except.pure, h]

theorem not_differs_of_compared {w : α}
    (h : (do
      if differs then throw fault
      return v : Except ε α) = .ok w) :
  ¬ differs ∧ v = w
  := by
  split at h
  · cases h
  · next hsame =>
    cases h
    exact ⟨hsame, rfl⟩

end Compared

theorem transactionInputs_eq_error_iff {txId envelope anchor : String} :
  transactionInputs files txId envelope anchor = .error e
    ↔ FailsFirst (transactionChecks files txId envelope anchor) e
  := by
  apply failsFirst_bind fun e => input_eq_error_iff
  intro v hv
  apply failsFirst_bind fun e => input_eq_error_iff
  intro header _
  rw [failsFirst_singleton_iff, input_eq_ok_iff.1 hv]
  apply compared_eq_error_iff.trans
  simp

theorem headerInput_eq_error_iff {block : UInt64} :
  headerInput files block path = .error e ↔ FailsFirst (headerChecks files block path) e
  := by
  apply failsFirst_bind fun e => input_eq_error_iff
  intro header hheader
  rw [failsFirst_singleton_iff, input_eq_ok_iff.1 hheader]
  apply compared_eq_error_iff.trans
  simp

/-- A header that is accepted is the one of the block. -/
theorem number_of_headerInput {block : UInt64} {header : BlockHeader}
    (h : headerInput files block path = .ok header) :
  header.number = block
  := by
  obtain ⟨read, -, hcompared⟩ := bind_eq_ok_iff.1 h
  obtain ⟨hsame, rfl⟩ := not_differs_of_compared hcompared
  apply not_not.1 hsame

/-! ### Commands -/

namespace Command

/-- What a command asks for first. -/
def firstFetch : Command → Fetch
  | .header block => .blockHeader block
  | .lastHeader => .lastBlockHeader
  | .path first last => .ledgerPath first last
  | .receipt txId => .txReceipt txId
  | .verifyTx txId _ _ => .txReceipt txId
  | .dataProof block database key _ isDeleted (some _) => .dataProof block database key isDeleted
  | .dataProof block _ _ _ _ none => .blockHeader block

/-- The checks of the files that a command names. -/
def givenChecks (files : Files) : Command → List (RunError → Prop)
  | .verifyTx txId envelope anchor => transactionChecks files txId envelope anchor
  | .dataProof block _ _ _ _ (some path) => headerChecks files block path
  | _ => []

/-- The checks of a command: those of its files, and of the arguments of what it asks for first. -/
def checks (files : Files) (command : Command) : List (RunError → Prop) :=
  command.givenChecks files ++ command.firstFetch.checks.map (Reported .query)

end Command

/-- The checks of a run before its first request. -/
def Invocation.checks (i : Invocation) (files : Files) : List (RunError → Prop) :=
  i.sessionChecks files ++ i.command.checks files

end Cli

end LedgerTrust
