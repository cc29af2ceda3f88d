import LedgerTrust.Data.Duration

/-!
# Durations in messages

A duration is shown in the largest unit of which it has at least one, from nanoseconds to seconds,
with as many decimals as are needed.
-/

namespace LedgerTrust.Text

/-- The decimals that write `n` in so many places, without zeros at the end. -/
def decimals (places n : Nat) : String :=
  let digits := (toString n).toList
  let padded := List.replicate (places - digits.length) '0' ++ digits
  let kept := (padded.reverse.dropWhile (· = '0')).reverse
  if kept.isEmpty then "" else "." ++ String.ofList kept

def duration (d : Duration) : String :=
  let n := d.nanoseconds.val
  if d.seconds ≠ 0 then toString d.seconds.toNat ++ decimals 9 n ++ "s"
  else if 1000000 ≤ n then toString (n / 1000000) ++ decimals 6 (n % 1000000) ++ "ms"
  else if 1000 ≤ n then toString (n / 1000) ++ decimals 3 (n % 1000) ++ "µs"
  else toString n ++ "ns"

end LedgerTrust.Text
