import LedgerTrust.Data.Bytes

/-!
# Base64

`Base64.encode` writes three bytes as four symbols of the standard alphabet and pads the last
group with `=`. `Base64.decode?` reads them back; the last group may lack some or all of its
padding, but the bits its symbols carry beyond the last byte are zero.
-/

namespace LedgerTrust.Base64

/-- The symbol of a number below 64. -/
def symbol (n : UInt8) : UInt8 :=
  if n < 26 then 65 + n
  else if n < 52 then 71 + n
  else if n < 62 then n - 4
  else if n = 62 then 43
  else 47

/-- The number of a symbol. -/
def value? (c : UInt8) : Option UInt8 :=
  if 65 ≤ c ∧ c ≤ 90 then some (c - 65)
  else if 97 ≤ c ∧ c ≤ 122 then some (c - 71)
  else if 48 ≤ c ∧ c ≤ 57 then some (c + 4)
  else if c = 43 then some 62
  else if c = 47 then some 63
  else none

/-- The padding symbol `=`. -/
def padding : UInt8 := 61

/-- The symbols of a byte string. -/
def encode : Bytes → Bytes
  | [] => []
  | [a] => [symbol (a / 4), symbol (a % 4 * 16), padding, padding]
  | [a, b] => [symbol (a / 4), symbol (a % 4 * 16 + b / 16), symbol (b % 16 * 4), padding]
  | a :: b :: c :: r =>
    symbol (a / 4) :: symbol (a % 4 * 16 + b / 16) :: symbol (b % 16 * 4 + c / 64)
      :: symbol (c % 64) :: encode r

/-- The byte of a last group of two symbols. -/
def lastOne? (p q : UInt8) : Option Bytes := do
  let p ← value? p
  let q ← value? q
  if q % 16 = 0 then return [p * 4 + q / 16] else none

/-- The bytes of a last group of three symbols. -/
def lastTwo? (p q r : UInt8) : Option Bytes := do
  let p ← value? p
  let q ← value? q
  let r ← value? r
  if r % 4 = 0 then return [p * 4 + q / 16, q % 16 * 16 + r / 4] else none

/-- The bytes of a full group. -/
def three? (p q r s : UInt8) : Option Bytes := do
  let p ← value? p
  let q ← value? q
  let r ← value? r
  let s ← value? s
  return [p * 4 + q / 16, q % 16 * 16 + r / 4, r % 4 * 64 + s]

/-- The bytes of a last group, with or without padding. -/
def last? : Bytes → Option Bytes
  | [] => some []
  | [p, q] => lastOne? p q
  | [p, q, r] => if r = padding then lastOne? p q else lastTwo? p q r
  | [p, q, r, s] =>
    if s = padding then (if r = padding then lastOne? p q else lastTwo? p q r)
    else three? p q r s
  | _ => none

/-- The bytes that a text of symbols stands for. -/
def decode? : Bytes → Option Bytes
  | p :: q :: r :: s :: t :: rest => do
    let front ← three? p q r s
    return front ++ (← decode? (t :: rest))
  | text => last? text

end LedgerTrust.Base64
