import LedgerTrust.Json.Scan

/-!
# Indented JSON

`Json.indented` shows a JSON text that holds no white space between its tokens with each member
and each element on a line of its own, two spaces further in than its container. An empty
container stays on one line.
-/

namespace LedgerTrust.Json

/-- What the layout of the next byte depends on. -/
structure Layout where
  /-- The number of open containers. -/
  depth : Nat
  /-- Whether the last byte opened a container. -/
  opened : Bool
  /-- Whether the byte belongs to a string. -/
  inString : Bool
  /-- Whether the last byte was a backslash that escapes the next one. -/
  escaped : Bool
  deriving DecidableEq, Repr

namespace Layout

/-- The layout at the start of a text. -/
def start : Layout := ⟨0, false, false, false⟩

/-- The start of a line inside the given number of containers. -/
def newLine (depth : Nat) : Bytes := 0x0a :: List.replicate (2 * depth) 0x20

/-- How a byte is shown, and the layout after it. -/
def step (l : Layout) (b : UInt8) : Bytes × Layout :=
  if l.inString then
    ([b], { l with
      inString := l.escaped || b != 0x22
      escaped := !l.escaped && b == 0x5c })
  else if b = 0x7d ∨ b = 0x5d then
    (if l.opened then [b] else newLine (l.depth - 1) ++ [b],
      { l with depth := l.depth - 1, opened := false })
  else
    let front := if l.opened then newLine l.depth else []
    if b = 0x7b ∨ b = 0x5b then
      (front ++ [b], { l with depth := l.depth + 1, opened := true })
    else if b = 0x2c then (b :: newLine l.depth, { l with opened := false })
    else if b = 0x3a then ([b, 0x20], { l with opened := false })
    else (front ++ [b], { l with opened := false, inString := b == 0x22 })

/-- How a text is shown. -/
def lay (l : Layout) : Bytes → Bytes
  | [] => []
  | b :: r => (l.step b).1 ++ (l.step b).2.lay r

end Layout

/-- A text with line ends and indentation. -/
def indented (t : Bytes) : Bytes := Layout.start.lay t

end LedgerTrust.Json
