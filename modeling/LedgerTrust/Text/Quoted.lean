import LedgerTrust.Text.Hidden

/-!
# Quoted texts

`quoted` shows a text between double quotes and `quotedChar` a character between single quotes:
the quote in use, the backslash and common controls are escaped by a letter, hidden characters
by their number in braces, and all others stand for themselves.
-/

namespace LedgerTrust.Text

/-- The number of the double quote. -/
def doubleQuote : Nat := 0x22

/-- The number of the single quote. -/
def singleQuote : Nat := 0x27

/-- The lower-case hexadecimal digits of a number. -/
def hexDigits (n : Nat) : String := String.ofList (Nat.toDigits 16 n)

/-- A character as it is shown between quotes of the given number. -/
def shown (quote : Nat) (c : Char) : String :=
  if c.toNat = quote ∨ c.toNat = 0x5c then "\\" ++ String.singleton c
  else if c.toNat = 0x0a then "\\n"
  else if c.toNat = 0x0d then "\\r"
  else if c.toNat = 0x09 then "\\t"
  else if c.toNat = 0 then "\\0"
  else if isHidden c then "\\u\x7b" ++ hexDigits c.toNat ++ "\x7d"
  else String.singleton c

/-- A text between double quotes. -/
def quoted (s : String) : String :=
  "\"" ++ String.join (s.toList.map (shown doubleQuote)) ++ "\""

/-- A character between single quotes. -/
def quotedChar (c : Char) : String := "\x27" ++ shown singleQuote c ++ "\x27"

end LedgerTrust.Text
