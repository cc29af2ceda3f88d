/-!
# Punycode

`Punycode.encode` writes a text as ASCII: its ASCII characters in order, then the places and
numbers of all others as a sequence of variable-length numbers with digits `a` to `z` and `0`
to `9`. `Punycode.decode?` reads a text that is written so.
-/

namespace LedgerTrust.Url.Punycode

/-- The digit of a number below 36. -/
def digit (n : Nat) : Char := Char.ofNat (if n < 26 then 0x61 + n else 0x16 + n)

/-- The threshold of the digit with weight `k`. -/
def threshold (k bias : Nat) : Nat :=
  if k ≤ bias + 1 then 1 else if bias + 26 ≤ k then 26 else k - bias

theorem threshold_pos (k bias : Nat) :
  0 < threshold k bias
  := by
  unfold threshold
  repeat' split
  all_goals omega

/-- A number as digits of variable weight. -/
def number (bias k q : Nat) : List Char :=
  let t := threshold k bias
  if _h : q < t then [digit q]
  else digit (t + (q - t) % (36 - t)) :: number bias (k + 36) ((q - t) / (36 - t))
termination_by q
decreasing_by
  have h₁ := threshold_pos k bias
  have h₂ := Nat.div_le_self (q - threshold k bias) (36 - threshold k bias)
  simp only [Nat.not_lt] at _h
  show (q - threshold k bias) / (36 - threshold k bias) < q
  omega

/-- The value of a digit, of which the letters may be capitals. -/
def digitValue? (c : Char) : Option Nat :=
  let n := c.toNat
  if 0x61 ≤ n ∧ n ≤ 0x7a then some (n - 0x61)
  else if 0x41 ≤ n ∧ n ≤ 0x5a then some (n - 0x41)
  else if 0x30 ≤ n ∧ n ≤ 0x39 then some (n - 0x16)
  else none

/-- The number that digits start with, added to `sum`, and the text after its digits. A digit
counts `weight` times, and no number reaches that of the words of 32 bits. -/
def number? (bias k weight sum : Nat) : List Char → Option (Nat × List Char)
  | [] => none
  | c :: r =>
    match digitValue? c with
    | none => none
    | some d =>
      let t := threshold k bias
      let sum := sum + d * weight
      if UInt32.size ≤ sum then none
      else if d < t then some (sum, r)
      else if UInt32.size ≤ weight * (36 - t) then none
      else number? bias (k + 36) (weight * (36 - t)) sum r

theorem length_number?_lt {bias k weight sum n : Nat} {t r : List Char}
    (h : number? bias k weight sum t = some (n, r)) :
  r.length < t.length
  := by
  induction t generalizing k weight sum with
  | nil => simp [number?] at h
  | cons c s ih =>
    unfold number? at h
    split at h
    · simp at h
    · simp only at h
      split at h
      · simp at h
      · split at h
        · simp only [Option.some.injEq, Prod.mk.injEq] at h
          simp [h.2]
        · split at h
          · simp at h
          · exact Nat.lt_succ_of_lt (ih h)

/-- The number of times that 35 divides a delta down to 455, and what is left. -/
def shrink (delta k : Nat) : Nat × Nat :=
  if 455 < delta then shrink (delta / 35) (k + 36) else (delta, k)
termination_by delta
decreasing_by omega

/-- The bias after a delta, when `count` characters have been written. -/
def adapt (delta count : Nat) (first : Bool) : Nat :=
  let d := if first then delta / 700 else delta / 2
  let (d, k) := shrink (d + d / count) 0
  k + 36 * d / (d + 38)

/-- The state of the encoder: what has been written, the delta, the bias, and the number of
characters that have been written. -/
structure State where
  written : List Char
  delta : Nat
  bias : Nat
  count : Nat

/-- A character met while those numbered `n` are written. -/
def State.meet (basic n : Nat) (s : State) (c : Char) : State :=
  if c.toNat < n then { s with delta := s.delta + 1 }
  else if c.toNat = n then
    ⟨s.written ++ number s.bias 36 s.delta, 0, adapt s.delta (s.count + 1) (s.count = basic),
      s.count + 1⟩
  else s

/-- The state after the characters with the given numbers, in ascending order, are written. -/
def State.run (text : List Char) (basic : Nat) (s : State) (n : Nat) : List Nat → State
  | [] => s
  | m :: r =>
    let s := { s with delta := s.delta + (m - n) * (s.count + 1) }
    let s := text.foldl (State.meet basic m) s
    State.run text basic { s with delta := s.delta + 1 } (m + 1) r

/-- The numbers of the characters that are not ASCII, in ascending order. -/
def numbers (text : List Char) : List Nat :=
  ((text.map Char.toNat).filter (0x80 ≤ ·)).mergeSort.eraseDups

/-- The text as ASCII. -/
def encode (text : List Char) : List Char :=
  let basic := text.filter (·.toNat < 0x80)
  let start := if basic.isEmpty then [] else basic ++ ['-']
  (State.run text basic.length ⟨start, 0, 72, basic.length⟩ 0x80 (numbers text)).written

/-! ### Reading -/

/-- The text `read` with the characters put into it whose places and numbers are given by a
text; `n` is the number of the last character put in, and `place` the place after it. -/
def insertAll? (bias n place : Nat) (read t : List Char) : Option (List Char) :=
  if t.isEmpty then some read
  else
    match _h : number? bias 36 1 place t with
    | none => none
    | some (sum, r) =>
      let count := read.length + 1
      let m := n + sum / count
      if m.isValidChar then
        insertAll? (adapt (sum - place) count (place = 0)) m (sum % count + 1)
          (read.insertIdx (sum % count) (Char.ofNat m)) r
      else none
termination_by t.length
decreasing_by exact length_number?_lt _h

/-- The text before the last hyphen, and the text after it; without a hyphen, or with only a
first one, the first of them is empty. -/
def splitBasic (t : List Char) : List Char × List Char :=
  let rest := (t.reverse.takeWhile (· != '-')).reverse
  let basic := t.take (t.length - rest.length - 1)
  if basic.isEmpty then ([], t) else (basic, rest)

/-- The text that is written as the given one. -/
def decode? (t : List Char) : Option (List Char) :=
  if t.all (·.toNat < 0x80) then
    insertAll? 72 0x80 0 (splitBasic t).1 (splitBasic t).2
  else none

end LedgerTrust.Url.Punycode
