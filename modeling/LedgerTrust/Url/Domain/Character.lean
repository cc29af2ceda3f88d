import LedgerTrust.Url.Domain.Table
import LedgerTrust.Url.Percent

/-!
# What becomes of the characters of a domain

`mapped?` gives the text that replaces a character of a domain: the character itself, another
one or several, or none. Some ASCII characters are kept at first, although they have a meaning
in URLs; `isForbidden` holds of those that no host may contain, and `isForbiddenInDomain` of
those that no domain may contain.
-/

namespace LedgerTrust.Url.Domain

/-- The characters that no host may contain. -/
def isForbidden (c : Char) : Bool :=
  c.toNat == 0 || c.toNat == 9 || c.toNat == 10 || c.toNat == 13 || c == ' ' || c == '#'
    || c == '/' || c == ':' || c == '<' || c == '>' || c == '?' || c == '@' || c == '['
    || c.toNat == 0x5c || c == ']' || c == '^' || c == '|'

/-- The characters that no domain may contain. -/
def isForbiddenInDomain (c : Char) : Bool := isForbidden c || controlSet c || c == '%'

/-- The character that takes the place of one in a range of pairs. -/
def pairedWith? (c : Char) : Option Char :=
  (pairedRanges.find? fun (low, high) => low ≤ c.toNat && c.toNat ≤ high).map fun (low, _) =>
    if (c.toNat - low) % 2 = 0 then Char.ofNat (c.toNat + 1) else c

/-- The character that takes the place of one in a range of shifted characters. -/
def shiftedTo? (c : Char) : Option Char :=
  (shiftedRanges.find? fun (low, high, _) => low ≤ c.toNat && c.toNat ≤ high).map
    fun (low, _, target) => Char.ofNat (target + (c.toNat - low))

/-- The text that replaces a character; none if the character cannot stand in a domain. -/
def mapped? (c : Char) : Option (List Char) :=
  if Text.inRanges keptRanges c then some [c]
  else if Text.inRanges droppedRanges c then some []
  else
    match pairedWith? c, shiftedTo? c with
    | some d, _ => some [d]
    | _, some d => some [d]
    | none, none => Text.textFor? spellings c

/-- Whether a character stays as it is. -/
def isKept (c : Char) : Bool := mapped? c = some [c]

end LedgerTrust.Url.Domain
