import LedgerTrust.Data.Hex

/-!
# Percent encoding

A byte is written as a percent sign and two upper-case hexadecimal digits when its character is
in the set of the part of the URL it stands in, or is not ASCII. Each set contains the one
before it, but for that of queries.
-/

namespace LedgerTrust.Url

/-- The characters that are written as their bytes in a part of a URL; those beyond ASCII
always are. -/
abbrev EncodeSet := Char → Bool

/-- Control characters. -/
def controlSet : EncodeSet := fun c => c.toNat < 0x20 || c.toNat == 0x7f

/-- The characters encoded in fragments: controls, the space, and those in `"<>` and the grave
accent. -/
def fragmentSet : EncodeSet := fun c =>
  controlSet c || c == ' ' || c.toNat == 0x22 || c == '<' || c == '>' || c.toNat == 0x60

/-- The characters encoded in paths: those of fragments, the marks that end a path, and
braces. -/
def pathSet : EncodeSet := fun c =>
  fragmentSet c || c == '#' || c == '?' || c.toNat == 0x7b || c.toNat == 0x7d

/-- The characters encoded in the names and passwords of users. -/
def userSet : EncodeSet := fun c =>
  pathSet c || c == '/' || c == ':' || c == ';' || c == '=' || c == '@' || c == '['
    || c.toNat == 0x5c || c == ']' || c == '^' || c == '|'

/-- The characters encoded in queries. -/
def querySet : EncodeSet := fun c =>
  controlSet c || c == ' ' || c.toNat == 0x22 || c == '#' || c == '<' || c == '>'

/-- The characters encoded in the queries of special schemes: the single quote as well. -/
def specialQuerySet : EncodeSet := fun c => querySet c || c.toNat == 0x27

/-- The upper-case hexadecimal digit of a number below sixteen. -/
def upperHex (n : Nat) : Char := Char.ofNat (if n < 10 then 0x30 + n else 0x37 + n)

/-- A byte as a percent sign and two digits. -/
def percentByte (b : UInt8) : List Char := ['%', upperHex (b.toNat / 16), upperHex (b.toNat % 16)]

/-- A character as it stands in a part of a URL. -/
def percentChar (set : EncodeSet) (c : Char) : List Char :=
  if set c || 0x7f < c.toNat then (String.utf8EncodeChar c).flatMap percentByte else [c]

/-- A text as it stands in a part of a URL. -/
def percentEncode (set : EncodeSet) (t : List Char) : List Char := t.flatMap (percentChar set)

/-- The bytes of a text in which a percent sign and two digits stand for one byte. -/
def percentDecode : Bytes → Bytes
  | 0x25 :: a :: b :: r =>
    match Hex.value? a, Hex.value? b with
    | some h, some l => (h * 16 + l) :: percentDecode r
    | _, _ => 0x25 :: percentDecode (a :: b :: r)
  | b :: r => b :: percentDecode r
  | [] => []

end LedgerTrust.Url
