/-!
# Lengths of time

A `Duration` is a length of time in whole nanoseconds, of less than `2 ^ 64` seconds. The sum of two
durations may be too long to be one; `Duration.sum?` says so instead of wrapping.
-/

namespace LedgerTrust

/-- A length of time: complete seconds, and the nanoseconds beyond them. -/
structure Duration where
  seconds : UInt64
  nanoseconds : Fin 1000000000
  deriving DecidableEq, Repr

namespace Duration

/-- The length in nanoseconds. -/
def length (d : Duration) : Nat := d.seconds.toNat * 1000000000 + d.nanoseconds.val

/-- The least number of nanoseconds that is too long for a duration. -/
def limit : Nat := UInt64.size * 1000000000

def zero : Duration := ⟨0, 0⟩

/-- The longest duration. -/
def longest : Duration := ⟨0xFFFFFFFFFFFFFFFF, 999999999⟩

def ofSeconds (n : UInt64) : Duration := ⟨n, 0⟩

def ofMilliseconds (n : UInt64) : Duration :=
  ⟨n / 1000, ⟨n.toNat % 1000 * 1000000, by omega⟩⟩

/-- The number of complete milliseconds. -/
def milliseconds (d : Duration) : Nat := d.length / 1000000

/-- The duration with a length, unless this is too long. -/
def ofLength? (n : Nat) : Option Duration :=
  if n < limit then
    some ⟨UInt64.ofNat (n / 1000000000), ⟨n % 1000000000, Nat.mod_lt n (by decide)⟩⟩
  else none

/-- The sum of two durations, unless this is too long. -/
def sum? (d e : Duration) : Option Duration := ofLength? (d.length + e.length)

theorem length_lt (d : Duration) :
  d.length < limit
  := by
  have hseconds := d.seconds.toNat_lt
  have hnanoseconds := d.nanoseconds.isLt
  simp only [length, limit, UInt64.size]
  omega

/-- A duration is determined by its length. -/
theorem eq_of_length_eq {d e : Duration} (h : d.length = e.length) :
  d = e
  := by
  obtain ⟨seconds, nanoseconds⟩ := d
  obtain ⟨seconds', nanoseconds'⟩ := e
  have hlt := nanoseconds.isLt
  have hlt' := nanoseconds'.isLt
  simp only [length] at h
  have hseconds : seconds = seconds' := by
    rw [← UInt64.toNat_inj]
    omega
  have hnanoseconds : nanoseconds = nanoseconds' := by
    apply Fin.ext
    omega
  rw [hseconds, hnanoseconds]

theorem ofLength?_eq_some_iff {n : Nat} {d : Duration} :
  ofLength? n = some d ↔ d.length = n
  := by
  unfold ofLength?
  split
  · next h =>
    have hseconds : n / 1000000000 < UInt64.size := by
      simp only [limit, UInt64.size] at h ⊢
      omega
    have hlength (nanoseconds : Fin 1000000000) (hn : nanoseconds.val = n % 1000000000) :
        length ⟨UInt64.ofNat (n / 1000000000), nanoseconds⟩ = n := by
      rw [length, UInt64.toNat_ofNat_of_lt' hseconds, hn]
      omega
    constructor
    · rintro ⟨⟩
      apply hlength _ rfl
    · intro hd
      congr 1
      apply eq_of_length_eq
      rw [hd, hlength _ rfl]
  · next h =>
    constructor
    · rintro ⟨⟩
    · rintro rfl
      exact absurd d.length_lt h

theorem sum?_eq_some_iff {d e f : Duration} :
  d.sum? e = some f ↔ f.length = d.length + e.length
  := ofLength?_eq_some_iff

/-- A sum is missing only if it is too long. -/
theorem sum?_eq_none_iff {d e : Duration} :
  d.sum? e = none ↔ limit ≤ d.length + e.length
  := by
  rw [sum?, ofLength?]
  split
  · next h => simp [Nat.not_le.2 h]
  · next h => simp [Nat.le_of_not_lt h]

end Duration

end LedgerTrust
