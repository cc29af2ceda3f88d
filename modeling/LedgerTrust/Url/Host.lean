import LedgerTrust.Url.Domain

/-!
# Hosts

The host of a URL with a special scheme is a domain or an address; any other host is kept as
it stands, encoded. `Host.parse` gives the written form of a host: a domain in ASCII, an
address of four numbers or of eight groups in its canonical form.
-/

namespace LedgerTrust.Url

/-- Why a text is no URL. -/
inductive ParseError where
  | relativeWithoutBase
  | relativeToRootless
  | emptyHost
  | invalidPort
  | invalidAddress4
  | invalidAddress6
  | invalidDomainCharacter
  | invalidDomain
  deriving DecidableEq, Repr

def ParseError.message : ParseError → String
  | .relativeWithoutBase => "relative URL without a base"
  | .relativeToRootless => "relative URL with a cannot-be-a-base base"
  | .emptyHost => "empty host"
  | .invalidPort => "invalid port number"
  | .invalidAddress4 => "invalid IPv4 address"
  | .invalidAddress6 => "invalid IPv6 address"
  | .invalidDomainCharacter => "invalid domain character"
  | .invalidDomain => "invalid international domain name"

namespace Host

/-- The value of a digit. -/
def digitValue? (c : Char) : Option Nat :=
  let n := c.toNat
  if 0x30 ≤ n && n ≤ 0x39 then some (n - 0x30)
  else if 0x61 ≤ n && n ≤ 0x66 then some (n - 0x57)
  else if 0x41 ≤ n && n ≤ 0x46 then some (n - 0x37)
  else none

/-- The number whose digits in a base are given. -/
def numberIn? (base : Nat) (t : List Char) : Option Nat :=
  t.foldlM (fun n c => do
    let d ← digitValue? c
    if d < base then some (n * base + d) else none) 0

/-! ### Addresses of four numbers -/

/-- A part of an address, in decimal, octal or hexadecimal digits. -/
def part? : List Char → Option Nat
  | [] => none
  | '0' :: 'x' :: r => numberIn? 16 r
  | '0' :: 'X' :: r => numberIn? 16 r
  | '0' :: c :: r => numberIn? 8 (c :: r)
  | t => numberIn? 10 t

/-- The parts of a domain without the empty part after a last point. -/
def partsOf (t : List Char) : List (List Char) :=
  let parts := Text.partsAt (· == '.') t
  if parts.length > 1 ∧ parts.getLast? = some [] then parts.dropLast else parts

/-- Whether the last part of a domain is a number, so that the domain must be an address. -/
def endsInNumber (t : List Char) : Bool :=
  match (partsOf t).getLast? with
  | none | some [] => false
  | some p => p.all Char.isDigit || (part? p).isSome

/-- The value of an address whose parts are given: the last part fills what is left. -/
def address4? (parts : List Nat) : Option Nat :=
  match parts.reverse with
  | [] => none
  | last :: firsts =>
    if firsts.length > 3 ∨ firsts.any (· > 255) ∨ last ≥ 1 <<< (8 * (4 - firsts.length)) then none
    else
      some (last + (firsts.reverse.zipIdx.foldl (fun n (p, i) => n + p <<< (8 * (3 - i))) 0))

/-- An address of four numbers in its canonical form. -/
def parseAddress4 (t : List Char) : Except ParseError String :=
  match ((partsOf t).mapM part?).bind address4? with
  | some n =>
    .ok (String.intercalate "." ([n >>> 24, (n >>> 16) % 256, (n >>> 8) % 256, n % 256].map
      toString))
  | none => .error .invalidAddress4

/-! ### Addresses of eight groups -/

/-- A group of one to four hexadecimal digits. -/
def group? (t : List Char) : Option Nat :=
  if t.isEmpty ∨ t.length > 4 then none else numberIn? 16 t

/-- A number of an embedded address of four numbers: no leading zero, at most 255. -/
def embeddedPart? (t : List Char) : Option Nat := do
  if t.isEmpty ∨ (t.length > 1 ∧ t.head? = some '0') then none
  else
    let n ← numberIn? 10 t
    if n > 255 then none else some n

/-- The groups of a text without double colon; the last one may be an address of four
numbers, which counts for two groups. -/
def groups? (embedded : Bool) (t : List Char) : Option (List Nat) :=
  if t.isEmpty then some []
  else do
    let parts := Text.partsAt (· == ':') t
    let front ← parts.dropLast.mapM group?
    let last := parts.getLastD []
    if embedded ∧ last.contains '.' then
      match ← (Text.partsAt (· == '.') last).mapM embeddedPart? with
      | [a, b, c, d] => return front ++ [a * 256 + b, c * 256 + d]
      | _ => none
    else return front ++ [← group? last]

/-- The texts before and after the first double colon. -/
def atDoubleColon? : List Char → Option (List Char × List Char)
  | ':' :: ':' :: r => some ([], r)
  | c :: r => (atDoubleColon? r).map fun (front, rest) => (c :: front, rest)
  | [] => none

/-- The eight groups of an address. -/
def address6? (t : List Char) : Option (List Nat) :=
  match atDoubleColon? t with
  | none => do
    let groups ← groups? true t
    if groups.length = 8 then some groups else none
  | some (front, rest) => do
    let before ← groups? false front
    let after ← groups? true rest
    let missing := 8 - (before.length + after.length)
    if before.length + after.length > 7 then none
    else some (before ++ List.replicate missing 0 ++ after)

/-- The start and length of the first longest run of at least two zeros. -/
def longestZeros (groups : List Nat) : Option (Nat × Nat) :=
  let runAt (i : Nat) := ((groups.drop i).takeWhile (· = 0)).length
  (List.range groups.length).foldl (fun best i =>
    let n := runAt i
    if n < 2 then best
    else
      match best with
      | some (_, m) => if m < n then some (i, n) else best
      | none => some (i, n)) none

/-- Groups with a colon between neighbours. -/
def colonSeparated (groups : List Nat) : String :=
  String.intercalate ":" (groups.map fun g => String.ofList (Nat.toDigits 16 g))

/-- An address of eight groups in its canonical form. -/
def address6Text (groups : List Nat) : String :=
  match longestZeros groups with
  | some (i, n) => colonSeparated (groups.take i) ++ "::" ++ colonSeparated (groups.drop (i + n))
  | none => colonSeparated groups

/-! ### Domains -/

/-- A domain in ASCII, or the address that it is the text of. -/
def parseDomain (t : List Char) : Except ParseError String :=
  match (Bytes.toText? (percentDecode (Bytes.ofText (String.ofList t)))).bind
      (Domain.ascii? ·.toList) with
  | none => .error .invalidDomain
  | some domain =>
    if domain.isEmpty then .error .emptyHost
    else if endsInNumber domain then parseAddress4 domain
    else .ok (String.ofList domain)

/-- A host in its written form; `special` tells whether the scheme is special. -/
def parse (special : Bool) (t : List Char) : Except ParseError String :=
  match t with
  | '[' :: r =>
    if r.getLast? = some ']' then
      match address6? r.dropLast with
      | some groups => .ok ("[" ++ address6Text groups ++ "]")
      | none => .error .invalidAddress6
    else .error .invalidAddress6
  | _ =>
    if special then (if t.isEmpty then .error .emptyHost else parseDomain t)
    else if t.any Domain.isForbidden then .error .invalidDomainCharacter
    else .ok (String.ofList (percentEncode controlSet t))

end Host

end LedgerTrust.Url
