import LedgerTrust.Url.Percent

/-!
# Schemes of URLs

The scheme decides how the text after it is read. The special schemes are those of the web and
the one of files: under them a backslash is read as a slash, and there is always a path.
-/

namespace LedgerTrust.Url

/-- The kinds of schemes. -/
inductive Kind where
  | web
  | file
  | other
  deriving DecidableEq, Repr

/-- Whether a scheme of a kind is special. -/
def Kind.isSpecial (k : Kind) : Bool := k != .other

/-- The usual port of a scheme of the web. -/
def usualPort? : String → Option Nat
  | "http" => some 80
  | "https" => some 443
  | "ws" => some 80
  | "wss" => some 443
  | "ftp" => some 21
  | _ => none

/-- The kind of a scheme. -/
def kindOf (scheme : String) : Kind :=
  if (usualPort? scheme).isSome then .web else if scheme = "file" then .file else .other

/-- The characters of a scheme after the first. -/
def isSchemeChar (c : Char) : Bool := c.isAlphanum || c == '+' || c == '-' || c == '.'

/-- The scheme that a text starts with, in lower case, and the text after its colon. -/
def scheme? (t : List Char) : Option (String × List Char) :=
  match t with
  | c :: _ =>
    if c.isAlpha then
      match t.dropWhile isSchemeChar with
      | ':' :: r => some (String.ofList ((t.takeWhile isSchemeChar).map Char.toLower), r)
      | _ => none
    else none
  | [] => none

/-- Whether a character is a slash or a backslash. -/
def isAnySlash (c : Char) : Bool := c == '/' || c.toNat == 0x5c

/-- Whether a character is read as a slash under a scheme. -/
def Kind.isSlash (k : Kind) (c : Char) : Bool := c == '/' || (k.isSpecial && isAnySlash c)

/-- Whether a character ends the path. -/
def endsPath (c : Char) : Bool := c == '?' || c == '#'

/-- Whether a character ends the authority. -/
def Kind.endsAuthority (k : Kind) (c : Char) : Bool := k.isSlash c || endsPath c

end LedgerTrust.Url
