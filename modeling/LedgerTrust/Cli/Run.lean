import LedgerTrust.Cli.Arguments
import LedgerTrust.Json.Indented
import LedgerTrust.Session.FullProof

/-!
# Runs of the program

`Invocation.run` reads the configuration, opens the session and carries out the command. The
first thing that fails is reported; files are read and looked at before any request is sent. A
run prints text, and a command that is to prove something ends with whether it is proved.
-/

namespace LedgerTrust.Cli

/-- The contents of the files that can be read. -/
abbrev Files := String → Option Bytes

/-- Why a run fails. -/
inductive RunError where
  | loading (path : String) (cause : ConfigError)
  | opening (cause : ConfigError)
  | reading (path : String)
  | parsing (path : String)
  | otherTransaction (held asked : String)
  | otherBlock (held asked : UInt64)
  | query (cause : QueryError)
  | proof (cause : ProofError)
  deriving DecidableEq, Repr

/-- What stands in messages for the reason for which a file cannot be read. -/
def unavailableText : String := "<io>"

namespace RunError

def message : RunError → String
  | .loading path _ => "loading " ++ path
  | .opening cause => cause.message
  | .reading path => "reading " ++ path
  | .parsing path => "parsing " ++ path
  | .otherTransaction held asked =>
    "envelope is for transaction " ++ held ++ ", not " ++ asked
  | .otherBlock held asked =>
    "header file holds block " ++ toString held.toNat ++ ", not " ++ toString asked.toNat
  | .query cause => cause.message
  | .proof cause => cause.message

/-- The message of the error that led to this one. -/
def causeMessage? : RunError → Option String
  | .loading _ cause => some cause.message
  | .opening cause => cause.causeMessage?
  | .reading _ => some unavailableText
  | .parsing _ => some unreadableText
  | .otherTransaction _ _ => none
  | .otherBlock _ _ => none
  | .query cause => cause.causeMessage?
  | .proof _ => none

end RunError

/-- What a run prints, and how it ends: with an error, or with whether all that was to be proved
is proved. -/
structure Outcome where
  printed : Bytes
  result : Except RunError Bool

/-- The status with which the program ends. -/
def Outcome.exitStatus (o : Outcome) : UInt32 :=
  match o.result with
  | .ok true => 0
  | _ => 1

/-- The status with which the program ends if there is no command to run. -/
def Stop.exitStatus : Stop → UInt32
  | .help => 0
  | .misuse => 2

/-! ### Printing -/

/-- A line of text. -/
def line (t : String) : Bytes := Bytes.ofText (t ++ "\n")

/-- A value as indented JSON. -/
def printedValue {α : Type} (c : Codec α) (v : α) : Bytes := Json.indented (c.json v) ++ line ""

/-- The last lines of a proof. -/
def verdictLines (subject : String) (isProved : Bool) : Bytes :=
  line "" ++ line (subject ++ (if isProved then ": VERIFIED" else ": FAILED"))

/-- A text after as many spaces as make it eight characters long. -/
def padded (t : String) : String := String.ofList (List.replicate (8 - t.length) ' ') ++ t

/-- The line of a header in a path. -/
def headerLine (s : Scheme) (h : BlockHeader) : Bytes :=
  line ("  " ++ padded (toString h.number.toNat) ++ "  " ++ Hex.text (h.hash s).bytes)

/-- The line of a number with a name. -/
def countLine (name : String) (n : Nat) : Bytes := line (name ++ ": " ++ toString n)

/-- The line of the length of a path, if there is a path. -/
def lengthLine (name : String) : Option LedgerPath → Bytes
  | some p => countLine name p.headers.length
  | none => []

/-! ### Commands -/

/-- A part of a run, which may fail. -/
abbrev Step (α : Type) := ExceptT RunError (StateM Link) α

/-- An answer of the ledger. -/
def answer {α : Type} (d : Dialogue α) : Step α := d.adapt .query

/-- The value in a file. -/
def input {α : Type} (files : Files) (c : Codec α) (path : String) : Except RunError α :=
  match files path with
  | none => .error (.reading path)
  | some content =>
    match c.ofJson? content with
    | none => .error (.parsing path)
    | some v => .ok v

/-- The envelope and the trusted header that a proof of a transaction is given. -/
def transactionInputs (files : Files) (txId envelope anchor : String) :
    Except RunError (Envelope × BlockHeader) := do
  let envelope ← input files Envelope.codec envelope
  let anchor ← input files BlockHeader.codec anchor
  if envelope.txId ≠ txId then throw (.otherTransaction envelope.txId txId)
  return (envelope, anchor)

/-- The header of a block that a proof of a value is given. -/
def headerInput (files : Files) (block : UInt64) (path : String) :
    Except RunError BlockHeader := do
  let header ← input files BlockHeader.codec path
  if header.number ≠ block then throw (.otherBlock header.number block)
  return header

/-- Proves that two blocks are linked. -/
def runPath (s : Session) (first last : UInt64) : Step Outcome := do
  let path ← answer (s.ledgerPath first last)
  let shown :=
    line ("Path from block " ++ toString last.toNat ++ " to block " ++ toString first.toNat ++ ":")
      ++ path.headers.flatMap (headerLine s.scheme)
  match path.verify s.scheme with
  | .ok isLinked =>
    let subject := "path " ++ QueryError.shownRange first last
    return ⟨shown ++ verdictLines subject isLinked, .ok isLinked⟩
  | .error cause => return ⟨shown, .error (.proof cause)⟩

/-- Proves that a transaction is committed. -/
def runVerifyTx (s : Session) (files : Files) (txId envelope anchor : String) : Step Outcome := do
  let (envelope, anchor) ← transactionInputs files txId envelope anchor
  let receipt ← answer (s.txReceipt txId)
  let proof ← answer (s.fullProof receipt anchor envelope)
  return ⟨countLine "Block" receipt.blockNumber.toNat ++ countLine "Index" receipt.index.toNat
    ++ countLine "Merkle path length" proof.inclusion.hashes.length
    ++ lengthLine "Genesis path length" proof.toGenesis
    ++ lengthLine "Anchor path length" proof.fromAnchor
    ++ verdictLines ("transaction " ++ txId) proof.verified, .ok proof.verified⟩

/-- Proves that a key has a value, or had one that is deleted. -/
def runDataProof (s : Session) (files : Files) (block : UInt64) (database key value : String)
    (isDeleted : Bool) (header : Option String) : Step Outcome := do
  let header ←
    match header with
    | some path => liftM (headerInput files block path)
    | none => answer (s.blockHeader block)
  let isProved ←
    answer (s.verifyValue header database key (Bytes.ofText value) isDeleted)
  let subject := database ++ "/" ++ key ++ " as of block " ++ toString block.toNat
  return ⟨verdictLines subject isProved, .ok isProved⟩

/-- Prints an answer of the ledger. -/
def runQuery {α : Type} (c : Codec α) (d : Dialogue α) : Step Outcome := do
  let v ← answer d
  return ⟨printedValue c v, .ok true⟩

/-- Carries out a command. -/
def Command.run (s : Session) (files : Files) : Command → Step Outcome
  | .header block => runQuery BlockHeader.codec (s.blockHeader block)
  | .lastHeader => runQuery BlockHeader.codec s.lastBlockHeader
  | .path first last => runPath s first last
  | .receipt txId => runQuery TxReceipt.codec (s.txReceipt txId)
  | .verifyTx txId envelope anchor => runVerifyTx s files txId envelope anchor
  | .dataProof block database key value isDeleted headerPath =>
    runDataProof s files block database key value isDeleted headerPath

namespace Invocation

/-- The session under the configuration in the files. -/
def session? (i : Invocation) (files : Files) : Except RunError Session := do
  let connection ←
    (ConnectionConfig.load i.connection (files i.connection)).mapError (.loading i.connection)
  let config ← (SessionConfig.load i.session (files i.session)).mapError (.loading i.session)
  (Session.connect connection config (files config.keyPath)).mapError .opening

/-- What is printed and how the run ends, and the link after it. -/
def run (i : Invocation) (files : Files) (l : Link) : Outcome × Link :=
  match i.session? files with
  | .error e => (⟨[], .error e⟩, l)
  | .ok s =>
    match i.command.run s files l with
    | (.ok o, l) => (o, l)
    | (.error e, l) => (⟨[], .error e⟩, l)

/-- The files that are read, apart from the one with the signing seed. -/
def paths (i : Invocation) : List String :=
  [i.connection, i.session] ++
    match i.command with
    | .verifyTx _ envelope anchor => [envelope, anchor]
    | .dataProof _ _ _ _ _ (some header) => [header]
    | _ => []

/-- The file with the signing seed, if the session can be read. -/
def keyPath? (i : Invocation) (files : Files) : Option String :=
  ((files i.session).bind SessionConfig.codec.ofJson?).map (·.keyPath)

end Invocation

end LedgerTrust.Cli
