import LedgerTrust.Cli.Options
import LedgerTrust.Cli.Variables

/-!
# Arguments

`Invocation.ofArguments` reads the arguments of the program: options for the files of the
connection and of the session, which may also be named by variables, then a command with options
of its own.
-/

namespace LedgerTrust.Cli

/-- What the program is asked for. -/
inductive Command where
  /-- The header of a block. -/
  | header (block : UInt64)
  /-- The header of the last block. -/
  | lastHeader
  /-- The headers that link two blocks. -/
  | path (first last : UInt64)
  /-- The receipt of a transaction. -/
  | receipt (txId : String)
  /-- A full proof of a transaction, given files with its envelope and with a trusted header. -/
  | verifyTx (txId envelope anchor : String)
  /-- A proof of a value as of a block, perhaps given a file with the header of the block. -/
  | dataProof (block : UInt64) (database key value : String) (isDeleted : Bool)
    (header : Option String)
  deriving DecidableEq, Repr

namespace Command

/-- The names of the commands. -/
def names : List String := ["header", "last-header", "path", "receipt", "verify-tx", "data-proof"]

/-- The options of the command with a name. -/
def options (name : String) : List Opt :=
  if name = "header" then [⟨"block", .number⟩]
  else if name = "path" then [⟨"start", .number⟩, ⟨"end", .number⟩]
  else if name = "receipt" then [⟨"tx-id", .text⟩]
  else if name = "verify-tx" then [⟨"tx-id", .text⟩, ⟨"envelope", .path⟩, ⟨"anchor", .path⟩]
  else if name = "data-proof" then
    [⟨"block", .number⟩, ⟨"db", .text⟩, ⟨"key", .text⟩, ⟨"value", .text⟩, ⟨"deleted", .none⟩,
      ⟨"header", .path⟩]
  else []

/-- The command with a name and options, if all that it needs is given. -/
def ofOptions? (name : String) (g : Given) : Option Command :=
  if name = "header" then return .header (← g.number? "block")
  else if name = "last-header" then return .lastHeader
  else if name = "path" then return .path (← g.number? "start") (← g.number? "end")
  else if name = "receipt" then return .receipt (← g.value? "tx-id")
  else if name = "verify-tx" then
    return .verifyTx (← g.value? "tx-id") (← g.value? "envelope") (← g.value? "anchor")
  else if name = "data-proof" then
    return .dataProof (← g.number? "block") (← g.value? "db") (← g.value? "key")
      (← g.value? "value") (g.has "deleted") (g.value? "header")
  else none

/-- The command with a name and the arguments after it. -/
def ofArguments (name : String) (arguments : List String) : Except Stop Command := do
  let read ← readOptions (options name) [] [] none arguments
  let g ← read.given.settle read.pending
  match ofOptions? name g with
  | some c => return c
  | none => throw .misuse

end Command

/-- Why help on some commands is given: they lead to a command, or else are misused. -/
def helpOn : List String → Stop
  | [] => .help
  | [name] => if name ∈ "help" :: Command.names then .help else .misuse
  | _ => .misuse

/-- A run of the program. -/
structure Invocation where
  /-- The file of the connection. -/
  connection : String
  /-- The file of the session. -/
  session : String
  /-- How much is logged. -/
  logLevel : String
  command : Command
  deriving DecidableEq, Repr

namespace Invocation

/-- The options in front of the command. -/
def options : List Opt := [⟨"connection", .path⟩, ⟨"session", .path⟩, ⟨"log-level", .text⟩]

/-- The file that an option or else a variable names. -/
def file (g : Given) (v : Variables) (option variableName usual : String) : Except Stop String :=
  match g.value? option, v.get? variableName with
  | some path, _ => .ok path
  | none, some path => if path.isEmpty then .error .misuse else .ok path
  | none, none => .ok usual

/-- The run that arguments and variables ask for. -/
def ofArguments (v : Variables) (arguments : List String) : Except Stop Invocation := do
  let read ← readOptions options ("help" :: Command.names) [] none arguments
  match read.command with
  | none => throw .misuse
  | some (name, rest) =>
    if name = "help" then throw (helpOn rest)
    let command ← Command.ofArguments name rest
    let g ← read.given.settle read.pending
    let connection ← file g v "connection" "LEDGER_CONNECTION" "connection.json"
    let session ← file g v "session" "LEDGER_SESSION" "session.json"
    return ⟨connection, session, (g.value? "log-level").getD "info", command⟩

end Invocation

end LedgerTrust.Cli
