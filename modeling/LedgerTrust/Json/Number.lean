import LedgerTrust.Json.Scan

/-!
# JSON numbers

`Json.natural` writes a natural number with as few decimal digits as it has, and
`Json.natural?` reads exactly such texts: no sign, no point, no exponent, no leading zero.
-/

namespace LedgerTrust.Json

/-- The decimal digits of a number, highest first. -/
def natural (n : Nat) : Bytes :=
  if n < 10 then [0x30 + UInt8.ofNat n] else natural (n / 10) ++ [0x30 + UInt8.ofNat (n % 10)]
termination_by n
decreasing_by omega

/-- The number whose decimal digits are `t`, highest first. -/
def naturalOfDigits (t : Bytes) : Nat := t.foldl (fun n b => 10 * n + (b.toNat - 0x30)) 0

/-- The number that a text of decimal digits stands for. -/
def natural? (t : Bytes) : Option Nat :=
  if t.all isDigit ∧ t ≠ [] ∧ (t.head? = some 0x30 → t.length = 1) then
    some (naturalOfDigits t)
  else none

end LedgerTrust.Json
