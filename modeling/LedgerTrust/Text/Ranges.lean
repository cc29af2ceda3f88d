/-!
# Ranges of characters

A class of characters is given by closed ranges of their numbers, and texts for consecutive
characters by the number of the first of them.
-/

namespace LedgerTrust.Text

/-- Whether a character is in one of the closed ranges of a list. -/
def inRanges (ranges : List (Nat × Nat)) (c : Char) : Bool :=
  ranges.any fun (low, high) => low ≤ c.toNat && c.toNat ≤ high

/-- The text that a list holds for a character. -/
def textFor? (runs : List (Nat × List (List Nat))) (c : Char) : Option (List Char) :=
  (runs.findSome? fun (first, texts) =>
    if first ≤ c.toNat then texts[c.toNat - first]? else none).map (·.map Char.ofNat)

end LedgerTrust.Text
