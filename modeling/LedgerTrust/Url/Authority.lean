import LedgerTrust.Url.Host
import LedgerTrust.Url.Scheme

/-!
# Authorities

The authority of a URL says who is asked, and as whom: perhaps a user with a password, a host,
and perhaps a port, which is left out where it is the usual one.
-/

namespace LedgerTrust.Url

/-- Who is asked, and as whom. -/
structure Authority where
  username : String
  password : String
  host : String
  port : Option Nat
  deriving DecidableEq, Repr

namespace Authority

/-- The authority that names nobody. -/
def empty : Authority := ⟨"", "", "", none⟩

def text (a : Authority) : String :=
  let user :=
    if a.username = "" ∧ a.password = "" then ""
    else if a.password = "" then a.username ++ "@"
    else a.username ++ ":" ++ a.password ++ "@"
  user ++ a.host ++ (match a.port with | some p => ":" ++ toString p | none => "")

/-- The text before the last at sign and the text after it. -/
def splitUser (t : List Char) : Option (List Char) × List Char :=
  if t.contains '@' then
    let host := (t.reverse.takeWhile (· != '@')).reverse
    (some (t.take (t.length - host.length - 1)), host)
  else (none, t)

/-- The host and the text after the colon that follows it; a colon between square brackets
belongs to the host. -/
def splitPort (bracketed : Bool) : List Char → List Char × Option (List Char)
  | [] => ([], none)
  | c :: r =>
    if c == ':' && !bracketed then ([], some r)
    else
      let inside := if c == '[' then true else if c == ']' then false else bracketed
      let (host, port) := splitPort inside r
      (c :: host, port)

/-- The port that decimal digits give; none if there are no digits. -/
def port? (t : List Char) : Except ParseError (Option Nat) :=
  if t.isEmpty then .ok none
  else
    match Host.numberIn? 10 t with
    | some n => if n > 65535 then .error .invalidPort else .ok (some n)
    | none => .error .invalidPort

/-- An authority under a scheme that is not that of files. -/
def parse (scheme : String) (t : List Char) : Except ParseError Authority := do
  let (user, rest) := splitUser t
  let (hostText, portText) := splitPort false rest
  if hostText.isEmpty ∧ (user.isSome ∨ portText.isSome) then .error .emptyHost
  else
    let host ← Host.parse (kindOf scheme).isSpecial hostText
    let port ← port? (portText.getD [])
    let name := (user.getD []).takeWhile (· != ':')
    let password := ((user.getD []).drop name.length).drop 1
    let encoded (t : List Char) := String.ofList (percentEncode userSet t)
    .ok ⟨encoded name, encoded password, host,
      if port = usualPort? scheme then none else port⟩

/-- The authority of a file: a host, which may be empty, and is empty for this machine. -/
def parseFileHost (t : List Char) : Except ParseError Authority :=
  if t.isEmpty then .ok empty
  else do
    let host ← Host.parse true t
    .ok { empty with host := if host = "localhost" then "" else host }

end Authority

end LedgerTrust.Url
