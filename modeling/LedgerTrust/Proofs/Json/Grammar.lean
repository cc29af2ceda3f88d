import LedgerTrust.Json.Container

/-!
# The grammar of JSON

The texts of JSON as they are put together from bytes, without regard to how they are read: the
strings, the numbers, lists of texts with commas between them, and from these the texts of values.
White space may stand around the elements of an array, the members of an object and their keys; it
is not part of the texts of elements, members and values. Bytes in a string are free as long as they
are no control characters, so a value need not be a text of characters.
-/

namespace LedgerTrust.Json

/-- The text is white space, or empty. -/
def Blank (t : Bytes) : Prop := ∀ b ∈ t, isBlank b = true

/-! ### Strings -/

/-- What may stand between the quotes of a string. -/
inductive StringBody : Bytes → Prop
  | nil : StringBody []
  /-- A byte that stands for itself. -/
  | plain {b : UInt8} {t : Bytes} (hquote : b ≠ quote) (hbackslash : b ≠ backslash)
      (hcontrol : ¬ b < 0x20) (h : StringBody t) : StringBody (b :: t)
  /-- An escape by a letter. -/
  | escape {b : UInt8} {t : Bytes} (hb : isEscapeLetter b = true) (h : StringBody t) :
      StringBody (backslash :: b :: t)
  /-- An escape by four hexadecimal digits. -/
  | numbered {ds t : Bytes} (hlength : ds.length = 4) (hds : ds.all isHexDigit = true)
      (h : StringBody t) : StringBody (backslash :: 0x75 :: (ds ++ t))

/-- The text of a string. -/
inductive IsString : Bytes → Prop
  | quoted {t : Bytes} (h : StringBody t) : IsString (quote :: t ++ [quote])

/-! ### Numbers -/

/-- One decimal digit or more. -/
structure Digits (t : Bytes) : Prop where
  ne_nil : t ≠ []
  all_isDigit : t.all isDigit = true

/-- The digits before the point; a zero in front stands alone. -/
inductive Whole : Bytes → Prop
  | zero : Whole [0x30]
  | digits {d : UInt8} {ds : Bytes} (hd : isDigit d = true) (hzero : d ≠ 0x30)
      (hds : ds.all isDigit = true) : Whole (d :: ds)

/-- The point and the digits after it, or nothing. -/
inductive Fraction : Bytes → Prop
  | none : Fraction []
  | digits {ds : Bytes} (h : Digits ds) : Fraction (0x2e :: ds)

/-- The exponent of a number, or nothing. -/
inductive Exponent : Bytes → Prop
  | none : Exponent []
  | digits {letter : UInt8} {sign ds : Bytes} (hletter : letter = 0x65 ∨ letter = 0x45)
      (hsign : sign = [] ∨ sign = [0x2b] ∨ sign = [0x2d]) (h : Digits ds) :
      Exponent (letter :: (sign ++ ds))

/-- The text of a number. -/
inductive IsNumber : Bytes → Prop
  | parts {sign whole fraction exponent : Bytes} (hsign : sign = [] ∨ sign = [0x2d])
      (hwhole : Whole whole) (hfraction : Fraction fraction) (hexponent : Exponent exponent) :
      IsNumber (sign ++ (whole ++ (fraction ++ exponent)))

/-! ### Lists -/

/-- The second text is made of the first ones, with commas between neighbours and with white
space around each. -/
inductive Spaced : List Bytes → Bytes → Prop
  | none {t : Bytes} (ht : Blank t) : Spaced [] t
  | last {a v b : Bytes} (ha : Blank a) (hb : Blank b) : Spaced [v] (a ++ (v ++ b))
  | cons {a v b u t : Bytes} {r : List Bytes} (ha : Blank a) (hb : Blank b)
      (h : Spaced (u :: r) t) : Spaced (v :: u :: r) (a ++ (v ++ (b ++ 0x2c :: t)))

/-- A member of an object: its key, its value, and the white space before and after the colon. -/
structure Member where
  key : Bytes
  before : Bytes
  after : Bytes
  value : Bytes

namespace Member

/-- The text of a member. -/
def text (m : Member) : Bytes := m.key ++ (m.before ++ 0x3a :: (m.after ++ m.value))

/-- The key is a string, and only white space stands around the colon. -/
structure Framed (m : Member) : Prop where
  key : IsString m.key
  before : Blank m.before
  after : Blank m.after

end Member

/-! ### Values -/

/-- The text of a value, without white space around it. -/
inductive Value : Bytes → Prop
  | null : Value nullWord
  | bool (b : Bool) : Value (boolWord b)
  | number {t : Bytes} (h : IsNumber t) : Value t
  | string {t : Bytes} (h : IsString t) : Value t
  | array {ts : List Bytes} {t : Bytes} (h : Spaced ts t) (hvalues : ∀ v ∈ ts, Value v) :
      Value (0x5b :: t ++ [0x5d])
  | object {ms : List Member} {t : Bytes} (h : Spaced (ms.map Member.text) t)
      (hframed : ∀ m ∈ ms, m.Framed) (hvalues : ∀ m ∈ ms, Value m.value) :
      Value (0x7b :: t ++ [0x7d])

/-- The text of an object with the given members. -/
structure ObjectOf (ms : List Member) (t : Bytes) : Prop where
  text : ∃ c, Spaced (ms.map Member.text) c ∧ t = 0x7b :: c ++ [0x7d]
  framed : ∀ m ∈ ms, m.Framed
  values : ∀ m ∈ ms, Value m.value

/-- The text of an array of the given values. -/
structure ArrayOf (ts : List Bytes) (t : Bytes) : Prop where
  text : ∃ c, Spaced ts c ∧ t = 0x5b :: c ++ [0x5d]
  values : ∀ v ∈ ts, Value v

theorem ObjectOf.value {ms : List Member} {t : Bytes} (h : ObjectOf ms t) :
  Value t
  := by
  obtain ⟨c, hc, rfl⟩ := h.text
  exact .object hc h.framed h.values

theorem ArrayOf.value {ts : List Bytes} {t : Bytes} (h : ArrayOf ts t) :
  Value t
  := by
  obtain ⟨c, hc, rfl⟩ := h.text
  exact .array hc h.values

/-! ### White space -/

theorem blank_nil :
  Blank []
  := nofun

theorem Blank.append {a b : Bytes} (ha : Blank a) (hb : Blank b) :
  Blank (a ++ b)
  := by
  intro x hx
  rcases List.mem_append.1 hx with hx | hx
  · exact ha x hx
  · exact hb x hx

/-- White space in front belongs to that of the first text. -/
theorem Spaced.blank_append {a t : Bytes} {ts : List Bytes} (ha : Blank a) (h : Spaced ts t) :
  Spaced ts (a ++ t)
  := by
  cases h with
  | none ht => exact .none (ha.append ht)
  | last ha' hb =>
    rw [← List.append_assoc]
    exact .last (ha.append ha') hb
  | cons ha' hb h =>
    rw [← List.append_assoc]
    exact .cons (ha.append ha') hb h

/-- Texts with a comma between neighbours and nothing else. -/
theorem spaced_separated (ts : List Bytes) :
  Spaced ts (separated ts)
  := by
  induction ts using separated.induct with
  | case1 => exact .none blank_nil
  | case2 v =>
    have h := Spaced.last (v := v) blank_nil blank_nil
    rwa [List.append_nil, List.nil_append] at h
  | case3 v r hr ih =>
    obtain ⟨u, r, rfl⟩ := List.exists_cons_of_ne_nil hr
    exact .cons (v := v) blank_nil blank_nil ih

end LedgerTrust.Json
