import LedgerTrust.Data.TextMap
import LedgerTrust.Text.Alphanumeric
import LedgerTrust.Text.Blank

/-!
# Variables

Settings are taken from named variables, and a file of assignments sets those that are not set
yet. A line of this file is blank, a comment, or a name, an equals sign and a value. In a value,
quotes keep blanks, a backslash escapes the character after it, and a dollar sign stands before
the name of a variable whose value is put in place. The file is read up to the first line that
is none of these.
-/

namespace LedgerTrust

/-- Variables and their values. -/
abbrev Variables := TextMap String

namespace Variables

/-- The value of a variable; the empty text if it is not set. -/
def valueOf (v : Variables) (name : List Char) : List Char :=
  ((v.get? (String.ofList name)).getD "").toList

/-! ### Values -/

/-- What the reading of the next character of a value depends on. -/
inductive Reading where
  /-- The character stands for itself unless it is special. -/
  | plain
  /-- Every character up to a single quote stands for itself. -/
  | quoted
  /-- The character comes after a backslash. -/
  | escaped
  /-- The characters of a name come after a dollar sign. -/
  | name (read : List Char)
  /-- The characters of a name come up to a closing brace. -/
  | braced (read : List Char)
  /-- Only a comment may follow. -/
  | ended
  /-- A comment, which is not looked at. -/
  | comment
  deriving DecidableEq, Repr

/-- A value that is read in part. -/
structure PartialValue where
  reading : Reading
  /-- Whether a double quote is open. -/
  isQuoted : Bool
  text : List Char
  deriving DecidableEq, Repr

namespace PartialValue

/-- The value at its start. -/
def start : PartialValue := ⟨.plain, false, []⟩

/-- The value with further text, after which characters are read plainly. -/
def put (p : PartialValue) (text : List Char) : PartialValue :=
  { p with reading := .plain, text := p.text ++ text }

/-- The value after a character that is read plainly. -/
def readPlain (p : PartialValue) (c : Char) : PartialValue :=
  if c = '$' then { p with reading := .name [] }
  else if c.toNat = 0x5c then { p with reading := .escaped }
  else if c.toNat = 0x22 then { p with isQuoted := !p.isQuoted }
  else if p.isQuoted then p.put [c]
  else if c.toNat = 0x27 then { p with reading := .quoted }
  else if c = ' ' ∨ c = '\t' then { p with reading := .ended }
  else p.put [c]

/-- The value after an escaped character, if it may be escaped. -/
def readEscaped? (p : PartialValue) (c : Char) : Option PartialValue :=
  if c.toNat = 0x5c ∨ c.toNat = 0x27 ∨ c.toNat = 0x22 ∨ c = '$' ∨ c = ' ' then some (p.put [c])
  else if c = 'n' then some (p.put ['\n'])
  else none

/-- The value after a character that comes after some characters of a name without braces. The
character that ends the name stands for itself, unless it starts another name. -/
def readName (v : Variables) (p : PartialValue) (read : List Char) (c : Char) : PartialValue :=
  if Text.isAlphanumeric c then { p with reading := .name (read ++ [c]) }
  else if c.toNat = 0x7b ∧ read = [] then { p with reading := .braced [] }
  else
    let p := p.put (v.valueOf read)
    if c = '$' then { p with reading := .name [] } else p.put [c]

/-- The value after a character, if the character can stand there. -/
def step? (v : Variables) (p : PartialValue) (c : Char) : Option PartialValue :=
  match p.reading with
  | .plain => some (p.readPlain c)
  | .quoted => some (if c.toNat = 0x27 then { p with reading := .plain } else
      { p with text := p.text ++ [c] })
  | .escaped => p.readEscaped? c
  | .name read => some (p.readName v read c)
  | .braced read =>
    some (if c.toNat = 0x7d then p.put (v.valueOf read) else { p with reading := .braced (read ++ [c]) })
  | .ended =>
    if c = ' ' ∨ c = '\t' then some p
    else if c = '#' then some { p with reading := .comment }
    else none
  | .comment => some p

/-- The text of a value that ends here, if it may. -/
def finish? (v : Variables) (p : PartialValue) : Option (List Char) :=
  if p.isQuoted then none
  else
    match p.reading with
    | .quoted => none
    | .braced _ => none
    | .name read => some (p.text ++ v.valueOf read)
    | _ => some p.text

end PartialValue

/-- The text that a value stands for. -/
def value? (v : Variables) (t : List Char) : Option (List Char) :=
  (t.foldlM (PartialValue.step? v) PartialValue.start).bind (PartialValue.finish? v)

/-! ### Lines -/

/-- Whether a character can stand in the name of an assignment. -/
def isNameChar (c : Char) : Bool := c.isAlphanum || c == '_' || c == '.'

/-- The name that a text starts with, and the text after it and after blanks. -/
def name? (t : List Char) : Option (String × List Char) :=
  match t with
  | c :: _ =>
    if c.isAlpha || c == '_' then
      some (String.ofList (t.takeWhile isNameChar), (t.dropWhile isNameChar).dropWhile Text.isBlank)
    else none
  | [] => none

/-- The name of an assignment, perhaps after the word `export`, and the text after the equals
sign and after blanks. -/
def assignment? (t : List Char) : Option (String × List Char) := do
  let (name, r) ← name? t
  match r with
  | '=' :: r => return (name, r.dropWhile Text.isBlank)
  | r =>
    if name = "export" then
      let (name, r) ← name? r
      match r with
      | '=' :: r => return (name, r.dropWhile Text.isBlank)
      | _ => none
    else none

/-- Whether nothing but a comment is left. -/
def isVoid : List Char → Bool
  | [] => true
  | c :: _ => c == '#'

/-- The variables after a line. A variable that is set keeps its value. -/
def readLine? (v : Variables) (line : String) : Option Variables :=
  let t := (Text.trim line).toList
  if isVoid t then some v
  else do
    let (name, r) ← assignment? t
    let value ← if isVoid r then some [] else v.value? r
    return if v.contains name then v else v.insert name (String.ofList value)

/-- The variables after lines, up to the first one that cannot be read. -/
def readLines (v : Variables) : List Bytes → Variables
  | [] => v
  | line :: r =>
    match (Bytes.toText? line).bind v.readLine? with
    | some v => v.readLines r
    | none => v

/-- The lines of a file. -/
def linesOf : Bytes → List Bytes
  | [] => [[]]
  | b :: r =>
    match linesOf r with
    | [] => [[b]]
    | line :: lines => if b = 0x0a then [] :: line :: lines else (b :: line) :: lines

/-- The variables after a file of assignments. -/
def withAssignments (v : Variables) (content : Bytes) : Variables := v.readLines (linesOf content)

/-- The name after a dollar sign. -/
def nameAfterDollar (t : List Char) : List Char :=
  match t with
  | c :: r =>
    if c.toNat = 0x7b then r.takeWhile (·.toNat != 0x7d) else t.takeWhile Text.isAlphanumeric
  | [] => []

/-- The names after dollar signs in a text. -/
def namesIn : List Char → List String
  | [] => []
  | c :: r => if c = '$' then String.ofList (nameAfterDollar r) :: namesIn r else namesIn r

/-- The names that the assignments of a file set, and those whose values they put in place. -/
def mentionedNames (content : Bytes) : List String :=
  (linesOf content).flatMap fun line =>
    match Bytes.toText? line with
    | some t =>
      (assignment? (Text.trim t).toList).toList.map (·.1) ++ namesIn t.toList
    | none => []

end Variables

end LedgerTrust
