import LedgerTrust.Text.Direction
import LedgerTrust.Text.Joining
import LedgerTrust.Text.Normal
import LedgerTrust.Url.Domain.Character
import LedgerTrust.Url.Punycode

/-!
# Labels

A domain consists of labels. A label may contain any kept characters, or be written in ASCII
after the mark `xn--`; `Label.unicode?` gives the characters that it stands for, unless the
label breaks a rule: it starts with a mark, has a joiner at a wrong place, or is too long.
`Label.fitsDirections` is the further rule for labels of domains that contain letters written
from right to left.
-/

namespace LedgerTrust.Url.Domain.Label

/-! ### Joiners -/

/-- Keeps characters from joining. -/
def nonJoiner : Char := Char.ofNat 0x200c

/-- Makes characters join. -/
def joiner : Char := Char.ofNat 0x200d

/-- Whether a text starts, after transparent characters, with a character that joins in one of
the given ways. -/
def startsWithJoining (ways : List Text.Joining) (t : List Char) : Bool :=
  (t.dropWhile (Text.joining · = .transparent)).head?.any (Text.joining · ∈ ways)

/-- Whether a joiner fits between two texts, of which the first is given from its end. Both
joiners fit after a sign that suppresses a vowel; the one that keeps characters from joining
fits also where they would join. -/
def fitsBetween (before : List Char) (c : Char) (after : List Char) : Bool :=
  before.head?.any (Text.combiningClass · = Text.viramaClass)
    || (c == nonJoiner && startsWithJoining [.onLeft, .onBoth] before
      && startsWithJoining [.onRight, .onBoth] after)

/-- Whether all joiners of a text fit, after another text, given from its end. -/
def joinersFit (before : List Char) : List Char → Bool
  | [] => true
  | c :: r => ((c != nonJoiner && c != joiner) || fitsBetween before c r) && joinersFit (c :: before) r

/-! ### Characters -/

def isAscii (t : List Char) : Bool := t.all (·.toNat < 0x80)

/-- The most characters of a label that is not in ASCII. -/
def unicodeLimit : Nat := 1000

/-- The most characters after the mark of a label written in ASCII. -/
def encodedLimit : Nat := 2000

/-- Whether a label keeps the rules on its characters. -/
def isWellFormed (t : List Char) : Bool :=
  !t.head?.any Text.isMark && joinersFit [] t && (isAscii t || t.length ≤ unicodeLimit)

/-- What a label that is written in ASCII starts with. -/
def encodedMark : List Char := ['x', 'n', '-', '-']

/-- The characters that the ASCII text after the mark stands for: they are not all ASCII, are
kept in domains, and are in their composed form. -/
def decoded? (t : List Char) : Option (List Char) :=
  if t.length > encodedLimit then none
  else (Punycode.decode? t).filter fun s => !isAscii s && s.all isKept && Text.composedForm s == s

/-- The characters of a label. -/
def unicode? (t : List Char) : Option (List Char) :=
  (if t.take 4 = encodedMark then decoded? (t.drop 4) else some t).filter isWellFormed

/-- A label in ASCII. -/
def ascii (t : List Char) : List Char :=
  if isAscii t then t else encodedMark ++ Punycode.encode t

/-! ### Directions -/

/-- Whether a character is written from right to left, or belongs to such text. -/
def isRightToLeft (c : Char) : Bool :=
  Text.direction c ∈ [.rightToLeft, .arabicLetter, .arabicNumber]

/-- The directions that may occur in every label. -/
def freeDirections : List Text.Direction :=
  [.europeanNumber, .europeanSeparator, .commonSeparator, .europeanTerminator, .otherNeutral,
   .boundaryNeutral, .nonspacingMark]

/-- Whether the directions of the characters of a label are among the given ones, and the last
one, marks aside, is among others. -/
def runsWithin (all last : List Text.Direction) (t : List Text.Direction) : Bool :=
  t.all (all.contains ·) && (t.reverse.dropWhile (· = .nonspacingMark)).head?.any (last.contains ·)

/-- Whether the directions of the characters of a label fit together. A label runs the way of
its first letter, ends in a letter of that way or a number, and does not mix numbers of Arabic
text with European ones if it runs from right to left. -/
def directionsFit (t : List Text.Direction) : Bool :=
  match t with
  | [] => true
  | .leftToRight :: _ =>
    runsWithin (.leftToRight :: freeDirections) [.leftToRight, .europeanNumber] t
  | .rightToLeft :: _ | .arabicLetter :: _ =>
    runsWithin ([.rightToLeft, .arabicLetter, .arabicNumber] ++ freeDirections)
      [.rightToLeft, .arabicLetter, .europeanNumber, .arabicNumber] t
      && !(t.contains .europeanNumber && t.contains .arabicNumber)
  | _ => false

/-- Whether the characters of a label fit together by their directions. -/
def fitsDirections (t : List Char) : Bool := directionsFit (t.map Text.direction)

end LedgerTrust.Url.Domain.Label
