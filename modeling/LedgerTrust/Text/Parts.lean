/-!
# Parts of texts

`partsAt` cuts a text at separators. A text with a separator in it has the parts of the text
before the separator, and then those of the text after it.
-/

namespace LedgerTrust.Text

/-- The parts of a text between separators. -/
def partsAt (isSeparator : Char → Bool) : List Char → List (List Char)
  | [] => [[]]
  | c :: r =>
    match partsAt isSeparator r with
    | [] => [[c]]
    | part :: parts => if isSeparator c then [] :: part :: parts else (c :: part) :: parts

/-- There is always a first part. -/
theorem partsAt_ne_nil (isSeparator : Char → Bool) (t : List Char) :
  partsAt isSeparator t ≠ []
  := by
  cases t with
  | nil => simp [partsAt]
  | cons c r =>
    unfold partsAt
    split
    · simp
    · split <;> simp

theorem partsAt_append {isSeparator : Char → Bool} {c : Char} (h : isSeparator c)
    (t u : List Char) :
  partsAt isSeparator (t ++ c :: u) = partsAt isSeparator t ++ partsAt isSeparator u
  := by
  induction t with
  | nil =>
    obtain ⟨part, parts, hu⟩ := List.exists_cons_of_ne_nil (partsAt_ne_nil isSeparator u)
    simp [partsAt, hu, h]
  | cons d r ih =>
    obtain ⟨part, parts, hr⟩ := List.exists_cons_of_ne_nil (partsAt_ne_nil isSeparator r)
    rw [List.cons_append, partsAt, ih, partsAt, hr]
    simp only [List.cons_append]
    split <;> rfl

end LedgerTrust.Text
