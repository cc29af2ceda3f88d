import Mathlib.Tactic.Use
import LedgerTrust.Proofs.Json.Grammar

/-!
# The extent of values

The text of a value is `Delimited` if the scanner that is due to read a value ends exactly where
the text ends, inside whatever brackets and whatever text comes after it; only a text that could
continue a number is excluded. So a delimited text is cut off a longer text as it stands, and if
two delimited texts are each followed by others and the wholes agree, the texts agree. White space
in front of a value or a bracket is passed over.
-/

namespace LedgerTrust.Json

/-- The byte could continue a number. -/
def continuesNumber (b : UInt8) : Bool := isDigit b || b == 0x2e || b == 0x65 || b == 0x45

/-- The text does not continue a number in front of it. -/
def Stops (t : Bytes) : Prop := ∀ b ∈ t.head?, continuesNumber b = false

/-- What is left when a value ends inside the brackets of the stack. -/
def finish : List Bracket → Bytes → Option Bytes
  | [], rest => some rest
  | top :: stack, rest => scan (top :: stack) .after rest

/-- The text of a value that is delimited from what comes after it. -/
structure Delimited (t : Bytes) : Prop where
  starts : ∃ b r, t = b :: r ∧ isBlank b = false
  scan_append : ∀ (stack : List Bracket) (rest : Bytes), Stops rest →
    scan stack .value (t ++ rest) = finish stack rest

/-! ### Texts that stop -/

theorem stops_nil :
  Stops []
  := nofun

theorem stops_cons {b : UInt8} {t : Bytes} :
  Stops (b :: t) ↔ continuesNumber b = false
  := by
  simp [Stops]

/-- White space and a text that stops. -/
theorem Blank.stops_append {b t : Bytes} (hb : Blank b) (ht : Stops t) :
  Stops (b ++ t)
  := by
  cases b with
  | nil => exact ht
  | cons x b =>
    have hx := hb x List.mem_cons_self
    simp only [isBlank, Bool.or_eq_true, beq_iff_eq] at hx
    apply stops_cons.2
    rcases hx with ((rfl | rfl) | rfl) | rfl
    all_goals rfl

theorem Blank.stops {b : Bytes} (hb : Blank b) :
  Stops b
  := by
  rw [← List.append_nil b]
  exact hb.stops_append stops_nil

/-! ### White space -/

theorem skipBlank_append_of_blank {a : Bytes} (ha : Blank a) (t : Bytes) :
  skipBlank (a ++ t) = skipBlank t
  := List.dropWhile_append_of_pos ha

theorem skipBlank_of_blank {a : Bytes} (ha : Blank a) :
  skipBlank a = []
  := by
  rw [← List.append_nil a, skipBlank_append_of_blank ha]
  rfl

/-- A byte that is no white space stays in front. -/
theorem skipBlank_cons {b : UInt8} (hb : isBlank b = false) (t : Bytes) :
  skipBlank (b :: t) = b :: t
  := List.dropWhile_cons_of_neg (by simp [hb])

/-- The white space at the start of a text is what `skipBlank` leaves out. -/
theorem exists_skipBlank (t : Bytes) :
  ∃ a, Blank a ∧ t = a ++ skipBlank t
  := by
  use t.takeWhile isBlank
  constructor
  · exact List.all_eq_true.1 List.all_takeWhile
  · exact List.takeWhile_append_dropWhile.symm

theorem isBlank_of_skipBlank {b : UInt8} {t r : Bytes} (h : skipBlank t = b :: r) :
  isBlank b = false
  := by
  have hhead := List.head?_dropWhile_not isBlank t
  rw [← skipBlank, h] at hhead
  simpa using hhead

/-! ### Single steps of the scanner -/

theorem scan_next {stack stack' : List Bracket} {mode mode' : Mode} {b : UInt8}
    (h : step stack mode b = .next stack' mode') (r : Bytes) :
  scan stack mode (b :: r) = scan stack' mode' r
  := by
  rw [scan, h]

theorem scan_fail {stack : List Bracket} {mode : Mode} {b : UInt8}
    (h : step stack mode b = .fail) (r : Bytes) :
  scan stack mode (b :: r) = none
  := by
  rw [scan, h]

/-- A byte that ends a value. -/
theorem scan_ended {stack stack' : List Bracket} {mode : Mode} {b : UInt8}
    (h : step stack mode b = .ended stack') (r : Bytes) :
  scan stack mode (b :: r) = finish stack' r
  := by
  cases stack' with
  | nil => rw [scan, h]; rfl
  | cons top stack' => rw [scan, h]; rfl

/-- A complete number ends before a byte that does not continue it. -/
theorem scan_past {stack : List Bracket} {mode : Mode} {b : UInt8}
    (h : step stack mode b = .pastNumber stack b) (r : Bytes) :
  scan stack mode (b :: r) = finish stack (b :: r)
  := by
  cases stack with
  | nil => rw [scan, h]; rfl
  | cons top stack =>
    rw [scan, h, finish, scan]
    rfl

/-- After the last byte, a complete number is left or nothing. -/
theorem scan_nil {mode : Mode} (h : mode.endsNumber = true) (stack : List Bracket) :
  scan stack mode [] = finish stack []
  := by
  cases stack with
  | nil => simp [scan, finish, h]
  | cons top stack => simp [scan, finish]

/-- Where no number can end, something is due. -/
theorem ne_nil_of_scan {stack : List Bracket} {mode : Mode} (hmode : mode.endsNumber = false)
    {t rest : Bytes} (h : scan stack mode t = some rest) :
  ∃ b r, t = b :: r
  := by
  cases t with
  | nil => simp [scan, hmode] at h
  | cons b r => exact ⟨b, r, rfl⟩

/-- The scanner is where white space may stand. -/
def Mode.skipsBlank : Mode → Bool
  | .value | .firstValue | .key | .firstKey | .colon | .after => true
  | _ => false

theorem step_blank {mode : Mode} (hmode : mode.skipsBlank = true) {b : UInt8}
    (hb : isBlank b = true) (stack : List Bracket) :
  step stack mode b = .next stack mode
  := by
  have hclose : b ≠ 0x5d := by
    rintro rfl
    cases hb
  cases mode with
  | firstValue => rw [step, if_neg hclose, Step.start, if_pos hb]
  | value => rw [step, Step.start, if_pos hb]
  | key => rw [step, if_pos hb]
  | firstKey => rw [step, if_pos hb]
  | colon => rw [step, if_pos hb]
  | after => rw [step, Step.follow.eq_def, if_pos hb]
  | _ => cases hmode

/-- White space changes nothing where it may stand. -/
theorem scan_blank {mode : Mode} (hmode : mode.skipsBlank = true) {a : Bytes} (ha : Blank a)
    (stack : List Bracket) (t : Bytes) :
  scan stack mode (a ++ t) = scan stack mode t
  := by
  induction a with
  | nil => rfl
  | cons b a ih =>
    have hb := ha b List.mem_cons_self
    rw [List.cons_append, scan_next (step_blank hmode hb stack)]
    exact ih fun x hx => ha x (List.mem_cons_of_mem b hx)

/-! ### Inside brackets -/

namespace Bracket

def opening : Bracket → UInt8
  | object => 0x7b
  | array => 0x5b

def closing : Bracket → UInt8
  | object => 0x7d
  | array => 0x5d

/-- What is due after a comma. -/
def item : Bracket → Mode
  | object => .key
  | array => .value

/-- What is due after the opening bracket. -/
def first : Bracket → Mode
  | object => .firstKey
  | array => .firstValue

theorem isBlank_opening (bracket : Bracket) :
  isBlank bracket.opening = false
  := by
  cases bracket with
  | object => rfl
  | array => rfl

theorem isBlank_closing (bracket : Bracket) :
  isBlank bracket.closing = false
  := by
  cases bracket with
  | object => rfl
  | array => rfl

theorem stops_closing (bracket : Bracket) (rest : Bytes) :
  Stops (bracket.closing :: rest)
  := by
  apply stops_cons.2
  cases bracket with
  | object => rfl
  | array => rfl

theorem skipsBlank_item (bracket : Bracket) :
  bracket.item.skipsBlank = true ∧ bracket.first.skipsBlank = true
  := by
  cases bracket with
  | object => exact ⟨rfl, rfl⟩
  | array => exact ⟨rfl, rfl⟩

variable (bracket : Bracket) (stack : List Bracket) (rest : Bytes)

theorem scan_opening :
  scan stack .value (bracket.opening :: rest) = scan (bracket :: stack) bracket.first rest
  := by
  cases bracket with
  | object => exact scan_next rfl rest
  | array => exact scan_next rfl rest

/-- A container may be empty. -/
theorem scan_first_closing :
  scan (bracket :: stack) bracket.first (bracket.closing :: rest) = finish stack rest
  := by
  cases bracket with
  | object => exact scan_ended rfl rest
  | array => exact scan_ended rfl rest

/-- The end of a container gives what is left inside the brackets around it. -/
theorem finish_closing :
  finish (bracket :: stack) (bracket.closing :: rest) = finish stack rest
  := by
  cases bracket with
  | object => exact scan_ended rfl rest
  | array => exact scan_ended rfl rest

theorem finish_comma :
  finish (bracket :: stack) (0x2c :: rest) = scan (bracket :: stack) bracket.item rest
  := by
  rw [finish]
  cases bracket with
  | object => exact scan_next rfl rest
  | array => exact scan_next rfl rest

end Bracket

theorem stops_comma (t : Bytes) :
  Stops (0x2c :: t)
  := stops_cons.2 rfl

/-- White space after an item changes nothing. -/
theorem finish_blank {b : Bytes} (hb : Blank b) (bracket : Bracket) (stack : List Bracket)
    (rest : Bytes) :
  finish (bracket :: stack) (b ++ rest) = finish (bracket :: stack) rest
  := scan_blank rfl hb (bracket :: stack) rest

theorem takeValue?_append_of_blank {a : Bytes} (ha : Blank a) (t : Bytes) :
  takeValue? (a ++ t) = takeValue? t
  := by
  simp only [takeValue?, skipBlank_append_of_blank ha]

theorem takeValue?_skipBlank (t : Bytes) :
  takeValue? (skipBlank t) = takeValue? t
  := by
  obtain ⟨a, ha, ht⟩ := exists_skipBlank t
  conv => rhs; rw [ht, takeValue?_append_of_blank ha]

/-! ### Delimited texts -/

namespace Delimited

variable {t u rest rest' : Bytes}

theorem skipBlank_append (h : Delimited t) (rest : Bytes) :
  skipBlank (t ++ rest) = t ++ rest
  := by
  obtain ⟨b, r, rfl, hb⟩ := h.starts
  rw [skipBlank, List.cons_append, List.dropWhile_cons_of_neg (by simp [hb])]

/-- A delimited text is cut off as it stands. -/
theorem takeValue?_append (h : Delimited t) (hrest : Stops rest) :
  takeValue? (t ++ rest) = some (t, rest)
  := by
  simp only [takeValue?, h.skipBlank_append, h.scan_append [] rest hrest, finish, Option.map_some]
  rw [List.length_append, Nat.add_sub_cancel, List.take_left]

/-- White space in front of a delimited text is left out. -/
theorem takeValue?_blank_append {a : Bytes} (h : Delimited t) (ha : Blank a)
    (hrest : Stops rest) :
  takeValue? (a ++ (t ++ rest)) = some (t, rest)
  := by
  rw [takeValue?_append_of_blank ha, h.takeValue?_append hrest]

/-- A delimited text is a document. -/
theorem document?_eq (h : Delimited t) :
  document? t = some t
  := by
  have htake := h.takeValue?_append stops_nil
  rw [List.append_nil] at htake
  rw [document?, htake]
  rfl

/-- What is written in front of a text is determined by the whole, if it is delimited. -/
theorem append_inj (ht : Delimited t) (hu : Delimited u) (hrest : Stops rest)
    (hrest' : Stops rest') (h : t ++ rest = u ++ rest') :
  t = u ∧ rest = rest'
  := by
  have hcut := ht.takeValue?_append hrest
  rw [h, hu.takeValue?_append hrest'] at hcut
  cases hcut
  exact ⟨rfl, rfl⟩

/-- A delimited text starts with a byte with which a value may start. -/
theorem head_ne (h : Delimited t) {b : UInt8} (hb : step [] .value b = .fail) :
  t.head? ≠ some b
  := by
  obtain ⟨c, r, rfl, -⟩ := h.starts
  intro hc
  cases hc
  have hscan := h.scan_append [] [] stops_nil
  rw [List.cons_append, scan, hb] at hscan
  cases hscan

/-- The first element of an array is read as any other one. -/
theorem scan_firstValue_append (h : Delimited t) (stack : List Bracket) (rest : Bytes) :
  scan stack .firstValue (t ++ rest) = scan stack .value (t ++ rest)
  := by
  have hclose : t.head? ≠ some 0x5d := h.head_ne rfl
  obtain ⟨b, r, rfl, hb⟩ := h.starts
  have hne : b ≠ 0x5d := fun hc => hclose (by rw [hc]; rfl)
  have hstep : step stack .firstValue b = step stack .value b := by
    simp only [step, if_neg hne, Step.start, hb]
    rfl
  rw [List.cons_append, scan, scan, hstep]

end Delimited

end LedgerTrust.Json
