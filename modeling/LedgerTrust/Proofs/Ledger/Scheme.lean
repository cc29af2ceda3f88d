import Mathlib.Data.List.Nodup
import LedgerTrust.Ledger.Scheme

/-!
# What digests tell apart

Nothing is assumed of the hash functions. What is proved of a ledger holds unless two different
byte strings with the same digest are among those that were hashed, which `Scheme.Collision` says
of a list of byte strings; where there is no such pair, the scheme separates the list.
-/

namespace LedgerTrust.Scheme

/-- Two different byte strings of a list have the same digest. -/
def Collision (s : Scheme) (hashed : List Bytes) : Prop :=
  ∃ x ∈ hashed, ∃ y ∈ hashed, x ≠ y ∧ s.digest x = s.digest y

/-- The byte strings of a list are told apart by their digests. -/
def Separates (s : Scheme) (hashed : List Bytes) : Prop :=
  ∀ x ∈ hashed, ∀ y ∈ hashed, s.digest x = s.digest y → x = y

theorem collision_or_separates (s : Scheme) (hashed : List Bytes) :
  s.Collision hashed ∨ s.Separates hashed
  := by
  by_cases h : s.Collision hashed
  · exact .inl h
  · apply Or.inr
    intro x hx y hy hdigest
    apply Decidable.byContradiction
    intro hne
    exact h ⟨x, hx, y, hy, hne, hdigest⟩

theorem Separates.not_collision {s : Scheme} {hashed : List Bytes} (h : s.Separates hashed) :
  ¬ s.Collision hashed
  := by
  rintro ⟨x, hx, y, hy, hne, hdigest⟩
  exact hne (h x hx y hy hdigest)

/-- Byte strings out of a list whose digests are all different are told apart. -/
theorem separates_of_nodup {s : Scheme} {hashed distinct : List Bytes}
    (h : (distinct.map s.digest).Nodup) (hmem : ∀ x ∈ hashed, x ∈ distinct) :
  s.Separates hashed
  := by
  intro x hx y hy hdigest
  exact List.inj_on_of_nodup_map h (hmem x hx) (hmem y hy) hdigest

/-! ### Pairs of digests -/

@[simp]
theorem length_pairBytes (left right : Digest) :
  (pairBytes left right).length = 64
  := by
  rw [pairBytes, List.length_append, left.length_bytes, right.length_bytes]

/-- What is hashed to combine two digests determines them. -/
theorem pairBytes_injective {left left' right right' : Digest}
    (h : pairBytes left right = pairBytes left' right') :
  left = left' ∧ right = right'
  := by
  have hlength : left.bytes.length = left'.bytes.length := by
    rw [left.length_bytes, left'.length_bytes]
  obtain ⟨hleft, hright⟩ := List.append_inj h hlength
  exact ⟨Digest.ext hleft, Digest.ext hright⟩

/-- Combined digests are told apart where what was hashed for them is. -/
theorem Separates.hashPair_injective {s : Scheme} {hashed : List Bytes} (h : s.Separates hashed)
    {left left' right right' : Digest} (hpair : pairBytes left right ∈ hashed)
    (hpair' : pairBytes left' right' ∈ hashed)
    (he : s.hashPair left right = s.hashPair left' right') :
  left = left' ∧ right = right'
  := pairBytes_injective (h _ hpair _ hpair' he)

end LedgerTrust.Scheme
