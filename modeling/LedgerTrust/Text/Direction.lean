import LedgerTrust.Text.Mark

/-!
# Directions

Every character has a direction: letters run one way or the other, digits and signs follow
rules of their own, and most other characters take the direction of what stands around them.
`direction` gives the direction of a character that is assigned in Unicode 17.
-/

namespace LedgerTrust.Text

/-- The directions of characters. -/
inductive Direction where
  | leftToRight
  | rightToLeft
  | arabicLetter
  | arabicNumber
  | europeanNumber
  /-- The direction of plus and minus signs. -/
  | europeanSeparator
  /-- The direction of currency signs, percent signs and their like. -/
  | europeanTerminator
  /-- The direction of points, commas, colons and slashes. -/
  | commonSeparator
  | nonspacingMark
  /-- The direction of characters that have no form. -/
  | boundaryNeutral
  | otherNeutral
  /-- The direction of separators, of blanks, and of characters that set the direction. -/
  | layout
  deriving DecidableEq, Repr

/-- The ranges of the letters written from right to left. -/
def rightToLeftRanges : List (Nat × Nat) :=
  [(0x5be, 0x5f4), (0x7c0, 0x7f5), (0x7fa, 0x85e), (0x200f, 0x200f), (0xfb1d, 0xfb28),
   (0xfb2a, 0xfb4f), (0x10800, 0x1091b), (0x10920, 0x10b35), (0x10b40, 0x10cff),
   (0x10d4a, 0x10d65), (0x10d6f, 0x10d8f), (0x10e80, 0x10eb1), (0x10f00, 0x10f27),
   (0x10f70, 0x10ff6), (0x1e800, 0x1e95f)]

/-- The ranges of the letters of Arabic and its kin. -/
def arabicLetterRanges : List (Nat × Nat) :=
  [(0x608, 0x608), (0x60b, 0x60b), (0x60d, 0x60d), (0x61b, 0x64a), (0x66d, 0x6d5), (0x6e5, 0x6e6),
   (0x6ee, 0x6ef), (0x6fa, 0x7b1), (0x860, 0x88f), (0x8a0, 0x8c9), (0xfb50, 0xfbc2),
   (0xfbd3, 0xfd3d), (0xfd50, 0xfd8f), (0xfd92, 0xfdc7), (0xfdf0, 0xfdfc), (0xfe70, 0xfefc),
   (0x10d00, 0x10d23), (0x10ec2, 0x10ec7), (0x10f30, 0x10f59), (0x1ec71, 0x1eebb)]

/-- The ranges of the numbers within Arabic text. -/
def arabicNumberRanges : List (Nat × Nat) :=
  [(0x600, 0x605), (0x660, 0x669), (0x66b, 0x66c), (0x6dd, 0x6dd), (0x890, 0x891), (0x8e2, 0x8e2),
   (0x10d30, 0x10d49), (0x10e60, 0x10e7e)]

/-- The ranges of the European digits. -/
def europeanNumberRanges : List (Nat × Nat) :=
  [(0x30, 0x39), (0xb2, 0xb3), (0xb9, 0xb9), (0x6f0, 0x6f9), (0x2070, 0x2070), (0x2074, 0x2079),
   (0x2080, 0x2089), (0x2488, 0x249b), (0xff10, 0xff19), (0x102e1, 0x102fb), (0x1ccf0, 0x1ccf9),
   (0x1d7ce, 0x1d7ff), (0x1f100, 0x1f10a), (0x1fbf0, 0x1fbf9)]

/-- The ranges of the plus and minus signs. -/
def signRanges : List (Nat × Nat) :=
  [(0x2b, 0x2b), (0x2d, 0x2d), (0x207a, 0x207b), (0x208a, 0x208b), (0x2212, 0x2212),
   (0xfb29, 0xfb29), (0xfe62, 0xfe63), (0xff0b, 0xff0b), (0xff0d, 0xff0d)]

/-- The ranges of the signs next to European digits. -/
def terminatorRanges : List (Nat × Nat) :=
  [(0x23, 0x25), (0xa2, 0xa5), (0xb0, 0xb1), (0x58f, 0x58f), (0x609, 0x60a), (0x66a, 0x66a),
   (0x9f2, 0x9f3), (0x9fb, 0x9fb), (0xaf1, 0xaf1), (0xbf9, 0xbf9), (0xe3f, 0xe3f),
   (0x17db, 0x17db), (0x2030, 0x2034), (0x20a0, 0x20c1), (0x212e, 0x212e), (0x2213, 0x2213),
   (0xa838, 0xa839), (0xfe5f, 0xfe5f), (0xfe69, 0xfe6a), (0xff03, 0xff05), (0xffe0, 0xffe1),
   (0xffe5, 0xffe6), (0x11fdd, 0x11fe0), (0x1e2ff, 0x1e2ff)]

/-- The ranges of the separators of numbers. -/
def separatorRanges : List (Nat × Nat) :=
  [(0x2c, 0x2c), (0x2e, 0x2f), (0x3a, 0x3a), (0xa0, 0xa0), (0x60c, 0x60c), (0x202f, 0x202f),
   (0x2044, 0x2044), (0xfe50, 0xfe50), (0xfe52, 0xfe52), (0xfe55, 0xfe55), (0xff0c, 0xff0c),
   (0xff0e, 0xff0f), (0xff1a, 0xff1a)]

/-- The ranges of the characters without a form. -/
def boundaryRanges : List (Nat × Nat) :=
  [(0x0, 0x8), (0xe, 0x1b), (0x7f, 0x84), (0x86, 0x9f), (0xad, 0xad), (0x180e, 0x180e),
   (0x200b, 0x200d), (0x2060, 0x2064), (0x206a, 0x206f), (0xfeff, 0xfeff), (0x1bca0, 0x1bca3),
   (0x1d173, 0x1d17a), (0xe0001, 0xe007f)]

/-- The ranges of the marks without a direction. -/
def neutralRanges : List (Nat × Nat) :=
  [(0x21, 0x22), (0x26, 0x2a), (0x3b, 0x40), (0x5b, 0x60), (0x7b, 0x7e), (0xa1, 0xa1),
   (0xa6, 0xa9), (0xab, 0xac), (0xae, 0xaf), (0xb4, 0xb4), (0xb6, 0xb8), (0xbb, 0xbf),
   (0xd7, 0xd7), (0xf7, 0xf7), (0x2b9, 0x2ba), (0x2c2, 0x2cf), (0x2d2, 0x2df), (0x2e5, 0x2ed),
   (0x2ef, 0x2ff), (0x374, 0x375), (0x37e, 0x37e), (0x384, 0x385), (0x387, 0x387), (0x3f6, 0x3f6),
   (0x58a, 0x58e), (0x606, 0x607), (0x60e, 0x60f), (0x6de, 0x6de), (0x6e9, 0x6e9), (0x7f6, 0x7f9),
   (0xbf3, 0xbf8), (0xbfa, 0xbfa), (0xc78, 0xc7e), (0xf3a, 0xf3d), (0x1390, 0x1399),
   (0x1400, 0x1400), (0x169b, 0x169c), (0x17f0, 0x180a), (0x1940, 0x1945), (0x19de, 0x19ff),
   (0x1fbd, 0x1fbd), (0x1fbf, 0x1fc1), (0x1fcd, 0x1fcf), (0x1fdd, 0x1fdf), (0x1fed, 0x1fef),
   (0x1ffd, 0x1ffe), (0x2010, 0x2027), (0x2035, 0x2043), (0x2045, 0x205e), (0x207c, 0x207e),
   (0x208c, 0x208e), (0x2100, 0x2101), (0x2103, 0x2106), (0x2108, 0x2109), (0x2114, 0x2114),
   (0x2116, 0x2118), (0x211e, 0x2123), (0x2125, 0x2125), (0x2127, 0x2127), (0x2129, 0x2129),
   (0x213a, 0x213b), (0x2140, 0x2144), (0x214a, 0x214d), (0x2150, 0x215f), (0x2189, 0x2211),
   (0x2214, 0x2335), (0x237b, 0x2394), (0x2396, 0x2487), (0x24ea, 0x26ab), (0x26ad, 0x27ff),
   (0x2900, 0x2bff), (0x2ce5, 0x2cea), (0x2cf9, 0x2cff), (0x2e00, 0x2fff), (0x3001, 0x3004),
   (0x3008, 0x3020), (0x3030, 0x3030), (0x3036, 0x3037), (0x303d, 0x303f), (0x309b, 0x309c),
   (0x30a0, 0x30a0), (0x30fb, 0x30fb), (0x31c0, 0x31ef), (0x321d, 0x321e), (0x3250, 0x325f),
   (0x327c, 0x327e), (0x32b1, 0x32bf), (0x32cc, 0x32cf), (0x3377, 0x337a), (0x33de, 0x33df),
   (0x33ff, 0x33ff), (0x4dc0, 0x4dff), (0xa490, 0xa4c6), (0xa60d, 0xa60f), (0xa673, 0xa67f),
   (0xa700, 0xa721), (0xa788, 0xa788), (0xa828, 0xa82b), (0xa874, 0xa877), (0xab6a, 0xab6b),
   (0xfbc3, 0xfbd2), (0xfd3e, 0xfd4f), (0xfd90, 0xfd91), (0xfdc8, 0xfdcf), (0xfdfd, 0xfe4f),
   (0xfe51, 0xfe51), (0xfe54, 0xfe54), (0xfe56, 0xfe5e), (0xfe60, 0xfe61), (0xfe64, 0xfe68),
   (0xfe6b, 0xfe6b), (0xff01, 0xff02), (0xff06, 0xff0a), (0xff1b, 0xff20), (0xff3b, 0xff40),
   (0xff5b, 0xff65), (0xffe2, 0xffe4), (0xffe8, 0xfffd), (0x10101, 0x10101), (0x10140, 0x1018c),
   (0x10190, 0x101a0), (0x1091f, 0x1091f), (0x10b39, 0x10b3f), (0x10d6e, 0x10d6e),
   (0x10ed0, 0x10ed8), (0x11052, 0x11065), (0x11660, 0x1166c), (0x11fd5, 0x11fdc),
   (0x11fe1, 0x11ff1), (0x16fe2, 0x16fe2), (0x1cc00, 0x1ccef), (0x1ccfa, 0x1cef0),
   (0x1d1e9, 0x1d245), (0x1d300, 0x1d356), (0x1d6db, 0x1d6db), (0x1d715, 0x1d715),
   (0x1d74f, 0x1d74f), (0x1d789, 0x1d789), (0x1d7c3, 0x1d7c3), (0x1eef0, 0x1f0f5),
   (0x1f10b, 0x1f10f), (0x1f12f, 0x1f12f), (0x1f16a, 0x1f16f), (0x1f1ad, 0x1f1ad),
   (0x1f260, 0x1fbef), (0x1fbfa, 0x1fbfa)]

/-- The ranges of the characters that lay out text. -/
def layoutRanges : List (Nat × Nat) :=
  [(0x9, 0xd), (0x1c, 0x20), (0x85, 0x85), (0x1680, 0x1680), (0x2000, 0x200a), (0x2028, 0x202e),
   (0x205f, 0x205f), (0x2066, 0x2069), (0x3000, 0x3000)]

/-- The nonspacing marks that run from left to right all the same. -/
def directedMarks : List (Nat × Nat) :=
  [(0xcbf, 0xcbf), (0xcc6, 0xcc6), (0x11a07, 0x11a08), (0x11c3f, 0x11c3f)]

/-- The ranges of each direction but two. -/
def directedRanges : List (List (Nat × Nat) × Direction) :=
  [(directedMarks, .leftToRight), (nonspacingRanges, .nonspacingMark),
   (rightToLeftRanges, .rightToLeft), (arabicLetterRanges, .arabicLetter),
   (arabicNumberRanges, .arabicNumber), (europeanNumberRanges, .europeanNumber),
   (signRanges, .europeanSeparator), (terminatorRanges, .europeanTerminator),
   (separatorRanges, .commonSeparator), (boundaryRanges, .boundaryNeutral),
   (neutralRanges, .otherNeutral), (layoutRanges, .layout)]

/-- The direction of a character: from left to right, unless its range is listed. -/
def direction (c : Char) : Direction :=
  ((directedRanges.find? fun (ranges, _) => inRanges ranges c).map (·.2)).getD .leftToRight

end LedgerTrust.Text
