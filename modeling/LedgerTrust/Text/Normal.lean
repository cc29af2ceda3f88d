import LedgerTrust.Text.CombiningClass
import LedgerTrust.Text.Composite

/-!
# Composed form

Texts that differ only in whether a character stands for itself or for its parts, and in the
order of marks that do not touch, have one composed form. `composedForm` takes a text apart,
puts the marks after each character in the order of their classes, and puts together what makes
a composite. The syllables of Hangul are composites by a rule instead of a list.
-/

namespace LedgerTrust.Text

/-! ### Syllables -/

/-- The number of the first leading consonant of a syllable; there are 19. -/
def firstLead : Nat := 0x1100

/-- The number of the first vowel of a syllable; there are 21. -/
def firstVowel : Nat := 0x1161

/-- The number before that of the first trailing consonant; there are 27, and a syllable may
have none. -/
def noTrail : Nat := 0x11a7

/-- The number of the first syllable. -/
def firstSyllable : Nat := 0xac00

/-- The letters of a syllable. -/
def lettersOfSyllable? (n : Nat) : Option (List Nat) :=
  let i := n - firstSyllable
  if firstSyllable ≤ n ∧ i < 19 * 21 * 28 then
    some ([firstLead + i / 28 / 21, firstVowel + i / 28 % 21]
      ++ (if i % 28 = 0 then [] else [noTrail + i % 28]))
  else none

/-- The syllable of a leading consonant and a vowel, or of a syllable without a trailing
consonant and that consonant. -/
def syllable? (a b : Nat) : Option Nat :=
  if firstLead ≤ a ∧ a < firstLead + 19 ∧ firstVowel ≤ b ∧ b < firstVowel + 21 then
    some (firstSyllable + ((a - firstLead) * 21 + (b - firstVowel)) * 28)
  else if firstSyllable ≤ a ∧ a < firstSyllable + 19 * 21 * 28 ∧ (a - firstSyllable) % 28 = 0
      ∧ noTrail < b ∧ b < noTrail + 28 then
    some (a + (b - noTrail))
  else none

/-! ### Taking apart -/

/-- What a character stands for, one step apart. -/
def split (c : Char) : List Char :=
  match textFor? standIns c, composites.find? (·.1 = c.toNat), lettersOfSyllable? c.toNat with
  | some t, _, _ => t
  | _, some (_, a, b), _ => [Char.ofNat a, Char.ofNat b]
  | _, _, some letters => letters.map Char.ofNat
  | _, _, _ => [c]

/-- The most steps that it takes until no character of a text stands for others. -/
def splitDepth : Nat := 3

/-- The text taken apart. -/
def apart (t : List Char) : List Char := Nat.repeat (List.flatMap split) splitDepth t

/-! ### Order of marks -/

/-- The text with a character in front, moved behind the marks of lower classes. -/
def placeMark (c : Char) : List Char → List Char
  | [] => [c]
  | d :: r =>
    if 0 < combiningClass d ∧ combiningClass d < combiningClass c then d :: placeMark c r
    else c :: d :: r

/-- The text with the marks after each character in the order of their classes. -/
def ordered (t : List Char) : List Char := t.foldr placeMark []

/-! ### Putting together -/

/-- The composite of two characters. -/
def composite? (a b : Char) : Option Char :=
  match composites.find? fun (_, x, y) => x = a.toNat ∧ y = b.toNat with
  | some (n, _, _) => some (Char.ofNat n)
  | none => (syllable? a.toNat b.toNat).map Char.ofNat

/-- The composite of a character and another one, between which marks stand; marks of the class
of the second or a higher one keep them apart. -/
def compositeAcross? (a : Char) (between : List Char) (b : Char) : Option Char :=
  if between.all (combiningClass · < combiningClass b) then composite? a b else none

/-- A character, the marks after it, and a text, put together. -/
def togetherFrom (c : Char) (marks : List Char) : List Char → List Char
  | [] => c :: marks
  | d :: r =>
    match compositeAcross? c marks d with
    | some e => togetherFrom e marks r
    | none =>
      if combiningClass d = 0 then c :: marks ++ togetherFrom d [] r
      else togetherFrom c (marks ++ [d]) r

/-- An ordered text put together. -/
def together : List Char → List Char
  | [] => []
  | c :: r => if combiningClass c = 0 then togetherFrom c [] r else c :: together r

/-- The composed form of a text; one in ASCII is composed already. -/
def composedForm (t : List Char) : List Char :=
  if t.all (·.toNat < 0x80) then t else together (ordered (apart t))

end LedgerTrust.Text
