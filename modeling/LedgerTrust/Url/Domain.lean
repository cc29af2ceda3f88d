import LedgerTrust.Text.Parts
import LedgerTrust.Url.Domain.Label

/-!
# Domains

A domain is a list of labels with points between them. `Domain.ascii?` gives the form in which
a domain is looked up: its characters are replaced and composed, its labels are checked, and
those that are not in ASCII are encoded.
-/

namespace LedgerTrust.Url.Domain

/-- The labels of a domain, with their characters replaced by those that they stand for. -/
def labels? (t : List Char) : Option (List (List Char)) := do
  let texts ← t.mapM mapped?
  (Text.partsAt (· == '.') (Text.composedForm texts.flatten)).mapM Label.unicode?

/-- Whether labels fit into one domain. One that contains letters written from right to left
restricts the directions in all of its labels. -/
def fitTogether (labels : List (List Char)) : Bool :=
  labels.all fun l => !l.any isForbiddenInDomain
    && (Label.fitsDirections l || !labels.any (·.any Label.isRightToLeft))

/-- A domain in ASCII. -/
def ascii? (t : List Char) : Option (List Char) :=
  ((labels? t).filter fitTogether).map fun labels =>
    ((labels.map Label.ascii).intersperse ['.']).flatten

end LedgerTrust.Url.Domain
