import LedgerTrust.Data.Bytes

/-!
# The extent of a JSON value

`Json.scan` reads a JSON text one byte at a time, with the open brackets on a stack, and stops
where the value ends; so nesting of any depth is read in one pass. Inside strings every byte
above the control characters is allowed, whatever text it makes, and escapes are checked for
their form only. `Json.takeValue?` cuts the first value off a text, without the white space
before it, and keeps its bytes as they stand.
-/

namespace LedgerTrust.Json

/-- The white space of JSON: space, tab, line feed, carriage return. -/
def isBlank (b : UInt8) : Bool := b == 0x20 || b == 0x09 || b == 0x0a || b == 0x0d

/-- The text after the white space at its start. -/
def skipBlank (t : Bytes) : Bytes := t.dropWhile isBlank

def isDigit (b : UInt8) : Bool := 0x30 ≤ b && b ≤ 0x39

def isHexDigit (b : UInt8) : Bool :=
  isDigit b || (0x61 ≤ b && b ≤ 0x66) || (0x41 ≤ b && b ≤ 0x46)

/-- The letters that stand for themselves or for a control character after a backslash. -/
def isEscapeLetter (b : UInt8) : Bool :=
  b == 0x22 || b == 0x5c || b == 0x2f || b == 0x62 || b == 0x66 || b == 0x6e || b == 0x72
    || b == 0x74

/-- An open bracket. -/
inductive Bracket where
  | object
  | array
  deriving DecidableEq, Repr

/-- What is being read, or what is due next. -/
inductive Mode where
  /-- A value is due. -/
  | value
  /-- A value or the end of an array is due. -/
  | firstValue
  /-- A key is due. -/
  | key
  /-- A key or the end of an object is due. -/
  | firstKey
  /-- The colon after a key is due. -/
  | colon
  /-- A comma or a closing bracket is due. -/
  | after
  /-- Inside a string, which is a key or not. -/
  | string (isKey : Bool)
  /-- After a backslash in a string. -/
  | escape (isKey : Bool)
  /-- Inside a numbered escape of which `digits + 1` digits are due. -/
  | numbered (isKey : Bool) (digits : Nat)
  /-- Inside a word of which these letters are due. -/
  | word (rest : Bytes)
  /-- After a minus sign. -/
  | minus
  /-- After a leading zero. -/
  | zero
  /-- Inside the digits before the point. -/
  | whole
  /-- After the point. -/
  | point
  /-- Inside the digits after the point. -/
  | fraction
  /-- After the letter of the exponent. -/
  | exponent
  /-- After the sign of the exponent. -/
  | exponentSign
  /-- Inside the digits of the exponent. -/
  | exponentDigits
  deriving DecidableEq, Repr

/-- What a byte does to the scanner. -/
inductive Step where
  /-- The byte cannot stand here. -/
  | fail
  /-- The scan goes on. -/
  | next (stack : List Bracket) (mode : Mode)
  /-- The byte is the last one of the value. -/
  | last
  /-- The value ended before the byte. -/
  | past
  deriving DecidableEq, Repr

/-- A value ends inside the given brackets. -/
def Step.ended : List Bracket → Step
  | [] => .last
  | stack => .next stack .after

/-- A bracket is closed. -/
def Step.close (bracket : Bracket) : List Bracket → Step
  | [] => .fail
  | top :: stack => if top = bracket then .ended stack else .fail

/-- A byte where a value is due and a blank changes nothing. -/
def Step.start (stack : List Bracket) (mode : Mode) (b : UInt8) : Step :=
  if isBlank b then .next stack mode
  else if b = 0x22 then .next stack (.string false)
  else if b = 0x7b then .next (.object :: stack) .firstKey
  else if b = 0x5b then .next (.array :: stack) .firstValue
  else if b = 0x2d then .next stack .minus
  else if b = 0x30 then .next stack .zero
  else if isDigit b then .next stack .whole
  else if b = 0x74 then .next stack (.word [0x72, 0x75, 0x65])
  else if b = 0x66 then .next stack (.word [0x61, 0x6c, 0x73, 0x65])
  else if b = 0x6e then .next stack (.word [0x75, 0x6c, 0x6c])
  else .fail

/-- A byte where a comma or a closing bracket is due. -/
def Step.follow (stack : List Bracket) (b : UInt8) : Step :=
  if isBlank b then .next stack .after
  else if b = 0x5d then .close .array stack
  else if b = 0x7d then .close .object stack
  else if b = 0x2c then
    match stack with
    | [] => .fail
    | .object :: _ => .next stack .key
    | .array :: _ => .next stack .value
  else .fail

/-- A byte after a complete number that it does not continue. -/
def Step.pastNumber (stack : List Bracket) (b : UInt8) : Step :=
  match stack with
  | [] => .past
  | _ => .follow stack b

/-- A byte after the digits before the point. -/
def Step.afterWhole (stack : List Bracket) (b : UInt8) : Step :=
  if b = 0x2e then .next stack .point
  else if b = 0x65 || b = 0x45 then .next stack .exponent
  else .pastNumber stack b

/-- What byte `b` does in a mode, inside the brackets of the stack. -/
def step (stack : List Bracket) (mode : Mode) (b : UInt8) : Step :=
  match mode with
  | .value => .start stack .value b
  | .firstValue => if b = 0x5d then .close .array stack else .start stack .firstValue b
  | .key =>
    if isBlank b then .next stack .key
    else if b = 0x22 then .next stack (.string true)
    else .fail
  | .firstKey =>
    if isBlank b then .next stack .firstKey
    else if b = 0x22 then .next stack (.string true)
    else if b = 0x7d then .close .object stack
    else .fail
  | .colon =>
    if isBlank b then .next stack .colon
    else if b = 0x3a then .next stack .value
    else .fail
  | .after => .follow stack b
  | .string isKey =>
    if b = 0x22 then (if isKey then .next stack .colon else .ended stack)
    else if b = 0x5c then .next stack (.escape isKey)
    else if b < 0x20 then .fail
    else .next stack (.string isKey)
  | .escape isKey =>
    if isEscapeLetter b then .next stack (.string isKey)
    else if b = 0x75 then .next stack (.numbered isKey 3)
    else .fail
  | .numbered isKey digits =>
    if isHexDigit b then
      match digits with
      | 0 => .next stack (.string isKey)
      | n + 1 => .next stack (.numbered isKey n)
    else .fail
  | .word [] => .fail
  | .word [c] => if b = c then .ended stack else .fail
  | .word (c :: r) => if b = c then .next stack (.word r) else .fail
  | .minus =>
    if b = 0x30 then .next stack .zero
    else if isDigit b then .next stack .whole
    else .fail
  | .zero => .afterWhole stack b
  | .whole => if isDigit b then .next stack .whole else .afterWhole stack b
  | .point => if isDigit b then .next stack .fraction else .fail
  | .fraction =>
    if isDigit b then .next stack .fraction
    else if b = 0x65 || b = 0x45 then .next stack .exponent
    else .pastNumber stack b
  | .exponent =>
    if b = 0x2b || b = 0x2d then .next stack .exponentSign
    else if isDigit b then .next stack .exponentDigits
    else .fail
  | .exponentSign => if isDigit b then .next stack .exponentDigits else .fail
  | .exponentDigits =>
    if isDigit b then .next stack .exponentDigits else .pastNumber stack b

/-- Whether the text read so far is a whole number that more digits could continue. -/
def Mode.endsNumber : Mode → Bool
  | .zero | .whole | .fraction | .exponentDigits => true
  | _ => false

/-- The text after the value that is being read. -/
def scan (stack : List Bracket) (mode : Mode) : Bytes → Option Bytes
  | [] => if stack.isEmpty && mode.endsNumber then some [] else none
  | b :: r =>
    match step stack mode b with
    | .fail => none
    | .next stack mode => scan stack mode r
    | .last => some r
    | .past => some (b :: r)

/-- The first value of a text, without the white space before it, and the text after it. -/
def takeValue? (t : Bytes) : Option (Bytes × Bytes) :=
  let t := skipBlank t
  (scan [] .value t).map fun rest => (t.take (t.length - rest.length), rest)

/-- The only value of a text, without the white space around it. -/
def document? (t : Bytes) : Option Bytes :=
  match takeValue? t with
  | some (value, rest) => if (skipBlank rest).isEmpty then some value else none
  | none => none

/-! ### What is left is shorter -/

theorem length_skipBlank_le (t : Bytes) :
  (skipBlank t).length ≤ t.length
  := (List.dropWhile_sublist isBlank).length_le

theorem length_scan_le {stack : List Bracket} {mode : Mode} {t rest : Bytes}
    (h : scan stack mode t = some rest) :
  rest.length ≤ t.length
  := by
  induction t generalizing stack mode with
  | nil =>
    simp only [scan] at h
    split at h
    · cases h
      simp
    · cases h
  | cons b r ih =>
    simp only [scan] at h
    split at h
    · cases h
    · have := ih h
      simp
      omega
    · cases h
      simp
    · cases h
      simp

theorem Step.start_ne_past (stack : List Bracket) (mode : Mode) (b : UInt8) :
  Step.start stack mode b ≠ .past
  := by
  unfold Step.start
  repeat' split
  all_goals nofun

/-- A value is not empty. -/
theorem length_scan_value_lt {t rest : Bytes} (h : scan [] .value t = some rest) :
  rest.length < t.length
  := by
  cases t with
  | nil => simp [scan, Mode.endsNumber] at h
  | cons b r =>
    simp only [scan] at h
    split at h
    · cases h
    · have := length_scan_le h
      simp
      omega
    · cases h
      simp
    · next hp => exact absurd hp (Step.start_ne_past [] .value b)

theorem length_takeValue?_lt {t value rest : Bytes} (h : takeValue? t = some (value, rest)) :
  rest.length < t.length
  := by
  obtain ⟨r, hr, he⟩ := Option.map_eq_some_iff.1 h
  cases he
  have h₁ := length_scan_value_lt hr
  have h₂ := length_skipBlank_le t
  omega

end LedgerTrust.Json
