import LedgerTrust.Cli.Run

/-!
# The program

Reads the environment and the files that a run needs, and prints what it prints. This build has no
connection to a network, so a request is never sent: it fails as unreachable.
-/

open LedgerTrust Cli

/-- The content of a file, if it can be read. -/
def contentOf (path : String) : IO (Option Bytes) := do
  try
    let content ← IO.FS.readBinFile path
    return some content.data.toList
  catch _ => return none

/-- The contents of some files. -/
def contentsOf (paths : List String) : IO (List (String × Option Bytes)) :=
  paths.mapM fun path => do return (path, ← contentOf path)

/-- Looks files up among those that were read. -/
def lookUp (contents : List (String × Option Bytes)) : Files :=
  fun path => (contents.find? (·.1 = path)).bind (·.2)

/-- The values of some environment that are set. -/
def variablesOf (names : List String) : IO Variables := do
  let values ← names.filterMapM fun name => do
    return (← IO.getEnv name).map fun value => (name, value)
  return TextMap.ofList values

def main (arguments : List String) : IO UInt32 := do
  let assignments := (← contentOf ".env").getD []
  let names := "LEDGER_CONNECTION" :: "LEDGER_SESSION" :: Variables.mentionedNames assignments
  let environment := (← variablesOf names).withAssignments assignments
  match Invocation.ofArguments environment arguments with
  | .error stop => return stop.exitStatus
  | .ok invocation =>
    let inputs ← contentsOf invocation.paths
    let key ← contentsOf (invocation.keyPath? (lookUp inputs)).toList
    let (outcome, _) := invocation.run (lookUp (inputs ++ key)) (Link.start [])
    let output ← IO.getStdout
    output.write ⟨outcome.printed.toArray⟩
    match outcome.result with
    | .ok _ => pure ()
    | .error e =>
      IO.eprintln ("Error: " ++ e.message)
      for cause in e.causeMessage? do
        IO.eprintln ("\nCaused by:\n    " ++ cause)
    return outcome.exitStatus
