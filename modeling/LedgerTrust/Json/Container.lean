import LedgerTrust.Json.Text

/-!
# JSON objects and arrays

`Json.object` and `Json.array` write the members of an object and the elements of an array,
given as texts, without white space. `Json.members?` and `Json.elements?` take a container
apart into the texts of its members and elements, each as it stands; the key of a member is
read as a text.
-/

namespace LedgerTrust.Json

/-! ### Writing -/

/-- The texts with a comma between neighbours. -/
def separated : List Bytes → Bytes
  | [] => []
  | [t] => t
  | t :: r => t ++ 0x2c :: separated r

/-- The object with the given keys and texts of values. -/
def object (members : List (String × Bytes)) : Bytes :=
  0x7b :: separated (members.map fun (key, value) => text key ++ 0x3a :: value) ++ [0x7d]

/-- The array of the given texts of elements. -/
def array (elements : List Bytes) : Bytes := 0x5b :: separated elements ++ [0x5d]

/-- The word for a missing value. -/
def nullWord : Bytes := [0x6e, 0x75, 0x6c, 0x6c]

/-- The word for a truth value. -/
def boolWord (b : Bool) : Bytes :=
  if b then [0x74, 0x72, 0x75, 0x65] else [0x66, 0x61, 0x6c, 0x73, 0x65]

/-! ### Reading -/

/-- What follows a member or an element: the end of a container closed by `close`, which ends
the text, or a comma and more text. -/
def afterItem? (close : UInt8) (t : Bytes) : Option (Option Bytes) :=
  match skipBlank t with
  | [] => none
  | b :: r =>
    if b = close then (if r.isEmpty then some none else none)
    else if b = 0x2c then some (some r)
    else none

theorem length_afterItem?_lt {close : UInt8} {t r : Bytes}
    (h : afterItem? close t = some (some r)) :
  r.length < t.length
  := by
  have ht := length_skipBlank_le t
  unfold afterItem? at h
  split at h
  · cases h
  · next b r' hs =>
    rw [hs] at ht
    repeat' split at h
    all_goals cases h
    exact ht

/-- The texts of the elements, of which the first is due, up to the end of the array. -/
def elementsFrom? (t : Bytes) : Option (List Bytes) :=
  match _h : takeValue? t with
  | none => none
  | some (value, rest) =>
    match _hr : afterItem? 0x5d rest with
    | none => none
    | some none => some [value]
    | some (some r) => (elementsFrom? r).map (value :: ·)
termination_by t.length
decreasing_by
  have := length_takeValue?_lt _h
  have := length_afterItem?_lt _hr
  omega

/-- The texts of the elements of an array. -/
def elements? : Bytes → Option (List Bytes)
  | 0x5b :: t =>
    match skipBlank t with
    | [0x5d] => some []
    | t => elementsFrom? t
  | _ => none

/-- The text after the colon that the text starts with. -/
def afterColon? (t : Bytes) : Option Bytes :=
  match skipBlank t with
  | 0x3a :: r => some r
  | _ => none

theorem length_afterColon?_lt {t r : Bytes} (h : afterColon? t = some r) :
  r.length < t.length
  := by
  have ht := length_skipBlank_le t
  unfold afterColon? at h
  split at h
  · next r' hs =>
    cases h
    rw [hs] at ht
    exact ht
  · cases h

/-- The members, of which the first is due, up to the end of the object. -/
def membersFrom? (t : Bytes) : Option (List (String × Bytes)) :=
  match _h₁ : takeValue? t with
  | none => none
  | some (key, r₁) =>
    match _h₂ : afterColon? r₁ with
    | none => none
    | some r₂ =>
      match text? key, _h₃ : takeValue? r₂ with
      | some key, some (value, r₃) =>
        match _h₄ : afterItem? 0x7d r₃ with
        | none => none
        | some none => some [(key, value)]
        | some (some r₄) => (membersFrom? r₄).map ((key, value) :: ·)
      | _, _ => none
termination_by t.length
decreasing_by
  have := length_takeValue?_lt _h₁
  have := length_afterColon?_lt _h₂
  have := length_takeValue?_lt _h₃
  have := length_afterItem?_lt _h₄
  omega

/-- The members of an object, in the order in which they stand. -/
def members? : Bytes → Option (List (String × Bytes))
  | 0x7b :: t =>
    match skipBlank t with
    | [0x7d] => some []
    | t => membersFrom? t
  | _ => none

end LedgerTrust.Json
