import LedgerTrust.Codec.Basic

/-!
# Canonical forms of records

`Fields α` describes a record whose fields, one after the other, hold a value of the product
`α`. `Codec.record` writes it as a JSON object with the fields in order, and reads it from an
object, where unknown members are skipped and a field is given at most once, or from an array
of the fields in order. In binary the fields follow each other.
-/

namespace LedgerTrust

/-- The named fields of a record and the written forms of their values. -/
structure Fields (α : Type) where
  /-- The names in order. -/
  names : List String
  /-- The JSON texts of the values in order. -/
  json : α → List Bytes
  /-- The values given by the members of an object. -/
  ofMembers? : List (String × Bytes) → Option α
  /-- The values given by the elements of an array. -/
  ofElements? : List Bytes → Option α
  binary : α → Bytes
  binary? : Bytes → Option (α × Bytes)

namespace Fields

variable {α β : Type}

/-- No fields. -/
def done : Fields Unit where
  names := []
  json _ := []
  ofMembers? _ := some ()
  ofElements?
    | [] => some ()
    | _ => none
  binary _ := []
  binary? b := some ((), b)

/-- The texts of the members with a name. -/
def textsOf (name : String) (members : List (String × Bytes)) : List Bytes :=
  (members.filter (·.1 = name)).map (·.2)

/-- A field in front of others. `member` is its value where an object lacks it, and `element`
where an array ends before it. -/
def field (name : String) (c : Codec α) (member element : Option α) (rest : Fields β) :
    Fields (α × β) where
  names := name :: rest.names
  json v := c.json v.1 :: rest.json v.2
  ofMembers? ms := do
    let first ←
      match textsOf name ms with
      | [] => member
      | [t] => c.json? t
      | _ => none
    return (first, ← rest.ofMembers? ms)
  ofElements?
    | [] => do return (← element, ← rest.ofElements? [])
    | t :: ts => do return (← c.json? t, ← rest.ofElements? ts)
  binary v := c.binary v.1 ++ rest.binary v.2
  binary? b := do
    let (first, r) ← c.binary? b
    let (others, r) ← rest.binary? r
    return ((first, others), r)

/-- A field that is always given. -/
def required (name : String) (c : Codec α) (rest : Fields β) : Fields (α × β) :=
  field name c none none rest

/-- A field whose value may be missing; an object may lack it. -/
def optional (name : String) (c : Codec α) (rest : Fields β) : Fields (Option α × β) :=
  field name c.option (some none) none rest

/-- A field with a value for where it is not given. -/
def defaulted (name : String) (c : Codec α) (value : α) (rest : Fields β) : Fields (α × β) :=
  field name c (some value) (some value) rest

end Fields

namespace Codec

variable {α β : Type}

/-- Records with the given fields. -/
def product (f : Fields α) : Codec α where
  json v := Json.object (f.names.zip (f.json v))
  json? t :=
    match Json.members? t with
    | some ms => f.ofMembers? ms
    | none => (Json.elements? t).bind f.ofElements?
  binary := f.binary
  binary? := f.binary?

/-- A structure as the record of its fields. -/
def record (write : α → β) (read : β → α) (f : Fields β) : Codec α :=
  (product f).viaMap write read

end Codec

end LedgerTrust
