import LedgerTrust.Data.TextMap
import LedgerTrust.Json.Container
import LedgerTrust.Json.Number

/-!
# Canonical forms of values

A `Codec α` gives the values of `α` two written forms and reads them back: a compact JSON text
and a binary form of fixed-width words, in which lengths come first. The codecs of this module
are those of single values and of collections; `Codec.literal` is that of a value written as a
string in both forms.
-/

namespace LedgerTrust

/-- The written forms of the values of a type. `json?` is given the text of a JSON value
without white space around it; `binary?` returns the bytes after the value. -/
structure Codec (α : Type) where
  json : α → Bytes
  json? : Bytes → Option α
  binary : α → Bytes
  binary? : Bytes → Option (α × Bytes)

namespace Codec

variable {α β : Type}

/-- The value of a JSON text, with white space around it allowed. -/
def ofJson? (c : Codec α) (t : Bytes) : Option α := (Json.document? t).bind c.json?

/-- The value at the start of a binary form; the bytes after it are not looked at. -/
def ofBinary? (c : Codec α) (b : Bytes) : Option α := (c.binary? b).map (·.1)

/-- Values of `α` in the written form of values of `β`. -/
def viaMap (write : α → β) (read : β → α) (c : Codec β) : Codec α where
  json v := c.json (write v)
  json? t := (c.json? t).map read
  binary v := c.binary (write v)
  binary? b := (c.binary? b).map fun (v, r) => (read v, r)

/-! ### Words and truth values -/

/-- The binary form of a number of `n` bytes. -/
def takeWord? (n : Nat) (b : Bytes) : Option (Nat × Bytes) :=
  (b.split? n).map fun (w, r) => (Bytes.ofLittleEndian w, r)

/-- Numbers below `2 ^ 64`. -/
def u64 : Codec UInt64 where
  json v := Json.natural v.toNat
  json? t := do
    let n ← Json.natural? t
    if n < UInt64.size then return UInt64.ofNat n else none
  binary v := Bytes.littleEndian 8 v.toNat
  binary? b := (takeWord? 8 b).map fun (n, r) => (UInt64.ofNat n, r)

/-- Numbers below `2 ^ 16`. -/
def u16 : Codec UInt16 where
  json v := Json.natural v.toNat
  json? t := do
    let n ← Json.natural? t
    if n < UInt16.size then return UInt16.ofNat n else none
  binary v := Bytes.littleEndian 2 v.toNat
  binary? b := (takeWord? 2 b).map fun (n, r) => (UInt16.ofNat n, r)

/-- Truth values; in binary, a byte zero or one. -/
def bool : Codec Bool where
  json v := Json.boolWord v
  json? t :=
    if t = Json.boolWord true then some true
    else if t = Json.boolWord false then some false
    else none
  binary v := [if v then 1 else 0]
  binary?
    | 0 :: r => some (false, r)
    | 1 :: r => some (true, r)
    | _ => none

/-! ### Strings -/

/-- The length of a byte string and its bytes. -/
def lengthAndBytes (b : Bytes) : Bytes := Bytes.littleEndian 8 b.length ++ b

/-- Values written as a string, with the bytes that `write` gives. -/
def literal (write : α → Bytes) (read? : Bytes → Option α) : Codec α where
  json v := Json.literal (write v)
  json? t := (Json.literal? t).bind read?
  binary v := lengthAndBytes (write v)
  binary? b := do
    let (n, r) ← takeWord? 8 b
    let (s, r) ← r.split? n
    return (← read? s, r)

/-- Texts. -/
def text : Codec String := literal Bytes.ofText Bytes.toText?

/-- Values of an enumeration, written by name; in JSON an object with the name as its only key
and a null value is read as well, and in binary a value is a word of four bytes with its
position in the enumeration. -/
def enumeration [DecidableEq α] (all : List α) (name : α → String) : Codec α where
  json v := Json.text (name v)
  json? t :=
    let named (s : String) := all.find? (name · = s)
    match Json.members? t with
    | some [(s, value)] => if value = Json.nullWord then named s else none
    | some _ => none
    | none => (Json.text? t).bind named
  binary v := Bytes.littleEndian 4 (all.idxOf v)
  binary? b := do
    let (i, r) ← takeWord? 4 b
    return (← all[i]?, r)

/-! ### Collections -/

/-- Values that may be missing: `null` in JSON, a byte zero or one in front in binary. -/
def option (c : Codec α) : Codec (Option α) where
  json
    | none => Json.nullWord
    | some v => c.json v
  json? t := if t = Json.nullWord then some none else (c.json? t).map some
  binary
    | none => [0]
    | some v => 1 :: c.binary v
  binary?
    | 0 :: r => some (none, r)
    | 1 :: r => (c.binary? r).map fun (v, r) => (some v, r)
    | _ => none

/-- The binary forms of `n` values, one after the other. -/
def takeMany? (c : Codec α) : Nat → Bytes → Option (List α × Bytes)
  | 0, b => some ([], b)
  | n + 1, b => do
    let (v, r) ← c.binary? b
    let (vs, r) ← takeMany? c n r
    return (v :: vs, r)

/-- Lists, as arrays in JSON and with their length in front in binary. -/
def list (c : Codec α) : Codec (List α) where
  json vs := Json.array (vs.map c.json)
  json? t := (Json.elements? t).bind fun ts => ts.mapM c.json?
  binary vs := Bytes.littleEndian 8 vs.length ++ vs.flatMap c.binary
  binary? b := do
    let (n, r) ← takeWord? 8 b
    takeMany? c n r

/-- Sets of texts, as lists of their texts in order. -/
def textSet : Codec TextSet := (list text).viaMap TextMap.keys TextSet.ofTexts

/-- The binary forms of `n` entries, one after the other. -/
def takeEntries? (c : Codec α) : Nat → Bytes → Option (List (String × α) × Bytes)
  | 0, b => some ([], b)
  | n + 1, b => do
    let (k, r) ← text.binary? b
    let (v, r) ← c.binary? r
    let (es, r) ← takeEntries? c n r
    return ((k, v) :: es, r)

/-- Maps from texts, as objects in JSON and as lists of entries in binary. -/
def textMap (c : Codec α) : Codec (TextMap α) where
  json m := Json.object (m.entries.map fun (k, v) => (k, c.json v))
  json? t := do
    let ms ← Json.members? t
    let es ← ms.mapM fun (k, t) => (c.json? t).map fun v => (k, v)
    return TextMap.ofList es
  binary m :=
    Bytes.littleEndian 8 m.size ++ m.entries.flatMap fun (k, v) => text.binary k ++ c.binary v
  binary? b := do
    let (n, r) ← takeWord? 8 b
    let (es, r) ← takeEntries? c n r
    return (TextMap.ofList es, r)

end Codec

end LedgerTrust
