import Mathlib.Algebra.GroupWithZero.Nat
import Mathlib.Data.List.Forall2
import LedgerTrust.Proofs.Json.Literal
import LedgerTrust.Proofs.Json.Number

/-!
# Objects and arrays

An array of delimited texts is delimited and is taken apart into these texts; an object of members
with delimited values is delimited and is taken apart into the names and values of these members,
with whatever white space between them. Both are shown once, for the items of a container of either
kind; `Json.array` and `Json.object` write containers without white space.
-/

namespace LedgerTrust.Json

/-! ### Items and the scanner -/

/-- The text of an item of a container that is delimited from what comes after it. -/
structure Item (bracket : Bracket) (t : Bytes) : Prop where
  scan_append : ∀ (stack : List Bracket) (rest : Bytes), Stops rest →
    scan stack bracket.item (t ++ rest) = finish stack rest
  /-- The first item is read as any other one. -/
  scan_first : ∀ (stack : List Bracket) (rest : Bytes),
    scan stack bracket.first (t ++ rest) = scan stack bracket.item (t ++ rest)

/-- An element of an array. -/
theorem Delimited.item {t : Bytes} (h : Delimited t) :
  Item .array t
  where
  scan_append := h.scan_append
  scan_first := h.scan_firstValue_append

/-- A member of an object. -/
theorem Member.Framed.item {m : Member} (hm : m.Framed) (h : Delimited m.value) :
  Item .object m.text
  where
  scan_append stack rest hrest := by
    have hcolon : step stack .colon 0x3a = .next stack .value := rfl
    simp only [Member.text, List.append_assoc, List.cons_append]
    calc
      scan stack .key (m.key ++ (m.before ++ 0x3a :: (m.after ++ (m.value ++ rest))))
        = scan stack .colon (m.before ++ 0x3a :: (m.after ++ (m.value ++ rest))) :=
          (hm.key.scan_key stack _).1
      _ = scan stack .value (m.after ++ (m.value ++ rest)) := by
          rw [scan_blank rfl hm.before, scan_next hcolon]
      _ = finish stack rest := by
          rw [scan_blank rfl hm.after, h.scan_append stack rest hrest]
  scan_first stack rest := by
    rw [Member.text, List.append_assoc]
    exact (hm.key.scan_key stack _).2.trans (hm.key.scan_key stack _).1.symm

/-- The scanner passes over the items of a container up to its end. -/
theorem Spaced.scan_append {bracket : Bracket} {ts : List Bytes} {t : Bytes} (h : Spaced ts t)
    (hne : ts ≠ []) (hitems : ∀ v ∈ ts, Item bracket v) (stack : List Bracket) (rest : Bytes) :
  scan (bracket :: stack) bracket.item (t ++ bracket.closing :: rest) = finish stack rest
  := by
  induction h with
  | none => exact absurd rfl hne
  | @last a v b ha hb =>
    have hv := hitems v List.mem_cons_self
    have hstops := hb.stops_append (bracket.stops_closing rest)
    rw [List.append_assoc, List.append_assoc, scan_blank bracket.skipsBlank_item.1 ha,
      hv.scan_append _ _ hstops, finish_blank hb, bracket.finish_closing]
  | @cons a v b u t r ha hb h ih =>
    have hv := hitems v List.mem_cons_self
    have hstops := hb.stops_append (stops_comma (t ++ bracket.closing :: rest))
    simp only [List.append_assoc, List.cons_append]
    rw [scan_blank bracket.skipsBlank_item.1 ha, hv.scan_append _ _ hstops, finish_blank hb,
      bracket.finish_comma]
    exact ih (List.cons_ne_nil u r) fun w hw => hitems w (List.mem_cons_of_mem v hw)

/-- The first item is read as any other one, also after white space. -/
theorem Spaced.scan_first {bracket : Bracket} {v t : Bytes} {r : List Bytes}
    (h : Spaced (v :: r) t) (hv : Item bracket v) (stack : List Bracket) (rest : Bytes) :
  scan stack bracket.first (t ++ rest) = scan stack bracket.item (t ++ rest)
  := by
  obtain ⟨hitem, hfirst⟩ := bracket.skipsBlank_item
  cases h with
  | last ha hb =>
    simp only [List.append_assoc]
    rw [scan_blank hfirst ha, scan_blank hitem ha, hv.scan_first]
  | cons ha hb h =>
    simp only [List.append_assoc]
    rw [scan_blank hfirst ha, scan_blank hitem ha, hv.scan_first]

/-- A container of delimited items is delimited. -/
theorem Spaced.delimited (bracket : Bracket) {ts : List Bytes} {t : Bytes} (h : Spaced ts t)
    (hitems : ∀ v ∈ ts, Item bracket v) :
  Delimited (bracket.opening :: t ++ [bracket.closing])
  where
  starts := ⟨_, _, rfl, bracket.isBlank_opening⟩
  scan_append stack rest _ := by
    rw [List.cons_append, List.cons_append, bracket.scan_opening, List.append_assoc,
      List.singleton_append]
    cases ts with
    | nil =>
      cases h with
      | none ht => rw [scan_blank bracket.skipsBlank_item.2 ht, bracket.scan_first_closing]
    | cons v r =>
      rw [h.scan_first (hitems v List.mem_cons_self)]
      exact h.scan_append (List.cons_ne_nil v r) hitems stack rest

/-! ### Items and the reader -/

theorem afterItem?_closing (bracket : Bracket) {b : Bytes} (hb : Blank b) :
  afterItem? bracket.closing (b ++ [bracket.closing]) = some none
  := by
  rw [afterItem?, skipBlank_append_of_blank hb, skipBlank_cons bracket.isBlank_closing]
  simp

theorem afterItem?_comma (bracket : Bracket) {b : Bytes} (hb : Blank b) (r : Bytes) :
  afterItem? bracket.closing (b ++ 0x2c :: r) = some (some r)
  := by
  have hne : (0x2c : UInt8) ≠ bracket.closing := by
    cases bracket with
    | object => decide
    | array => decide
  rw [afterItem?, skipBlank_append_of_blank hb, skipBlank_cons rfl]
  simp [hne]

/-- An item and those that follow it, given how its container goes on. -/
def itemsFrom? {α : Type} (item : α) (others? : Bytes → Option (List α)) :
    Option (Option Bytes) → Option (List α)
  | none => none
  | some none => some [item]
  | some (some r) => (others? r).map (item :: ·)

variable {α : Type}

/-- A container is read one item after the other: `take` reads the item in front of a text, `from?`
reads the items up to the closing bracket, and `read?` reads the whole container. -/
structure ItemReader (bracket : Bracket) (take : Bytes → Option (α × Bytes))
    (from? read? : Bytes → Option (List α)) : Prop where
  take_skipBlank : ∀ t, take (skipBlank t) = take t
  take_closing : take [bracket.closing] = none
  from?_eq : ∀ t, from? t
    = (take t).bind fun p => itemsFrom? p.1 from? (afterItem? bracket.closing p.2)
  read?_eq : ∀ r, read? (bracket.opening :: r)
    = if skipBlank r = [bracket.closing] then some [] else from? (skipBlank r)
  opening_of_read? : ∀ t xs, read? t = some xs → ∃ r, t = bracket.opening :: r

/-- The text is read as the item, wherever it stands in a container. -/
def TakenAs (take : Bytes → Option (α × Bytes)) (x : α) (v : Bytes) : Prop :=
  ∀ (a rest : Bytes), Blank a → Stops rest → take (a ++ (v ++ rest)) = some (x, rest)

namespace ItemReader

variable {bracket : Bracket} {take : Bytes → Option (α × Bytes)}
  {from? read? : Bytes → Option (List α)}

theorem from?_skipBlank (h : ItemReader bracket take from? read?) (t : Bytes) :
  from? (skipBlank t) = from? t
  := by
  rw [h.from?_eq, h.take_skipBlank, ← h.from?_eq]

/-- A container is empty, or its items are found up to its end. -/
theorem read?_eq_some_iff (h : ItemReader bracket take from? read?) {t : Bytes} {xs : List α} :
  read? t = some xs ↔ ∃ r, t = bracket.opening :: r
    ∧ (xs = [] ∧ skipBlank r = [bracket.closing] ∨ from? r = some xs)
  := by
  have hiff : ∀ r, read? (bracket.opening :: r) = some xs
      ↔ xs = [] ∧ skipBlank r = [bracket.closing] ∨ from? r = some xs := by
    intro r
    rw [h.read?_eq]
    by_cases hr : skipBlank r = [bracket.closing]
    · have hnone : from? r = none := by
        rw [← h.from?_skipBlank, hr, h.from?_eq, h.take_closing]
        rfl
      simp [hr, hnone, eq_comm]
    · simp [hr, h.from?_skipBlank]
  constructor
  · intro hread
    obtain ⟨r, rfl⟩ := h.opening_of_read? t xs hread
    exact ⟨r, rfl, (hiff r).1 hread⟩
  · rintro ⟨r, rfl, hr⟩
    exact (hiff r).2 hr

/-- The items of a container are found one after the other. -/
theorem from?_spaced (h : ItemReader bracket take from? read?) {ts : List Bytes} {t : Bytes}
    (hspaced : Spaced ts t) (hne : ts ≠ []) {xs : List α}
    (hitems : List.Forall₂ (TakenAs take) xs ts) :
  from? (t ++ [bracket.closing]) = some xs
  := by
  induction hspaced generalizing xs with
  | none => exact absurd rfl hne
  | @last a v b ha hb =>
    obtain _ | ⟨hx, ⟨⟩⟩ := hitems
    have hstops := hb.stops_append (bracket.stops_closing [])
    rw [List.append_assoc, List.append_assoc, h.from?_eq, hx _ _ ha hstops, Option.bind_some,
      afterItem?_closing bracket hb]
    rfl
  | @cons a v b u t r ha hb _ ih =>
    obtain _ | ⟨hx, hxs⟩ := hitems
    have hstops := hb.stops_append (stops_comma (t ++ [bracket.closing]))
    simp only [List.append_assoc, List.cons_append]
    rw [h.from?_eq, hx _ _ ha hstops, Option.bind_some, afterItem?_comma bracket hb, itemsFrom?,
      ih (List.cons_ne_nil u r) hxs]
    rfl

/-- A container is taken apart into its items. -/
theorem read?_spaced (h : ItemReader bracket take from? read?) {ts : List Bytes} {t : Bytes}
    (hspaced : Spaced ts t) {xs : List α} (hitems : List.Forall₂ (TakenAs take) xs ts) :
  read? (bracket.opening :: t ++ [bracket.closing]) = some xs
  := by
  apply h.read?_eq_some_iff.2
  use t ++ [bracket.closing]
  constructor
  · rfl
  cases ts with
  | nil =>
    cases hspaced with
    | none ht =>
      cases hitems
      left
      rw [skipBlank_append_of_blank ht, skipBlank_cons bracket.isBlank_closing]
      exact ⟨rfl, rfl⟩
  | cons v r => exact .inr (h.from?_spaced hspaced (List.cons_ne_nil v r) hitems)

end ItemReader

/-! ### Arrays -/

theorem elementsFrom?_eq (t : Bytes) :
  elementsFrom? t
    = (takeValue? t).bind fun p => itemsFrom? p.1 elementsFrom? (afterItem? 0x5d p.2)
  := by
  rw [elementsFrom?]
  split
  · next htake => rw [htake]; rfl
  · next htake =>
    rw [htake, Option.bind_some]
    split
    · next hafter => rw [hafter]; rfl
    · next hafter => rw [hafter]; rfl
    · next hafter => rw [hafter]; rfl

/-- The elements of an array are its items. -/
theorem elementReader :
  ItemReader .array takeValue? elementsFrom? elements?
  where
  take_skipBlank := takeValue?_skipBlank
  take_closing := rfl
  from?_eq := elementsFrom?_eq
  read?_eq r := by
    rw [Bracket.opening, elements?]
    split
    · next hr => exact (if_pos hr).symm
    · next hr => exact (if_neg hr).symm
  opening_of_read? t xs h := by
    unfold elements? at h
    split at h
    · exact ⟨_, rfl⟩
    · cases h

/-- An element is taken as it stands. -/
theorem Delimited.takenAs {t : Bytes} (h : Delimited t) :
  TakenAs takeValue? t t
  := fun _ _ ha hrest => h.takeValue?_blank_append ha hrest

theorem forall₂_takenAs {ts : List Bytes} (h : ∀ t ∈ ts, Delimited t) :
  List.Forall₂ (TakenAs takeValue?) ts ts
  := by
  induction ts with
  | nil => exact .nil
  | cons t ts ih =>
    exact .cons (h t List.mem_cons_self).takenAs (ih fun u hu => h u (List.mem_cons_of_mem t hu))

/-- An array of delimited texts is delimited. -/
theorem delimited_array {ts : List Bytes} (h : ∀ t ∈ ts, Delimited t) :
  Delimited (array ts)
  := (spaced_separated ts).delimited .array fun t ht => (h t ht).item

/-- An array is taken apart into the texts of its elements. -/
theorem elements?_array {ts : List Bytes} (h : ∀ t ∈ ts, Delimited t) :
  elements? (array ts) = some ts
  := elementReader.read?_spaced (spaced_separated ts) (forall₂_takenAs h)

theorem isText_separated {ts : List Bytes} (h : ∀ t ∈ ts, Bytes.IsText t) :
  Bytes.IsText (separated ts)
  := by
  have hcomma : Bytes.IsText [0x2c] := Bytes.IsText.of_isAscii (by simp [Bytes.IsAscii])
  induction ts using separated.induct with
  | case1 => exact .nil
  | case2 t => exact h t List.mem_cons_self
  | case3 t r hr ih =>
    rw [separated]
    · apply (h t List.mem_cons_self).append
      exact hcomma.append (ih fun u hu => h u (List.mem_cons_of_mem t hu))
    · exact hr

theorem isText_array {ts : List Bytes} (h : ∀ t ∈ ts, Bytes.IsText t) :
  Bytes.IsText (array ts)
  := by
  have hopen : Bytes.IsText [0x5b] := Bytes.IsText.of_isAscii (by simp [Bytes.IsAscii])
  have hclose : Bytes.IsText [0x5d] := Bytes.IsText.of_isAscii (by simp [Bytes.IsAscii])
  exact (hopen.append (isText_separated h)).append hclose

/-- The lengths of some texts add up to at most that of the whole, whatever weights below them
are counted. -/
theorem sum_le_length_separated {α : Type} {write : α → Bytes} {weight : α → Nat}
    (h : ∀ x, weight x ≤ (write x).length) (xs : List α) :
  (xs.map weight).sum ≤ (separated (xs.map write)).length
  := by
  induction xs with
  | nil => exact Nat.le_refl 0
  | cons x r ih =>
    have hx := h x
    cases r with
    | nil => simpa [separated] using hx
    | cons y r =>
      rw [List.map_cons, List.sum_cons, List.map_cons, List.map_cons, separated]
      · simp only [List.length_append, List.length_cons]
        rw [← List.map_cons]
        omega
      · nofun

/-! ### Objects -/

/-- The name and the value of the member in front of a text, and the text after it. -/
def takeMember? (t : Bytes) : Option ((String × Bytes) × Bytes) := do
  let (key, r) ← takeValue? t
  let r ← afterColon? r
  let name ← text? key
  let (value, r) ← takeValue? r
  return ((name, value), r)

theorem membersFrom?_eq (t : Bytes) :
  membersFrom? t
    = (takeMember? t).bind fun p => itemsFrom? p.1 membersFrom? (afterItem? 0x7d p.2)
  := by
  rw [membersFrom?]
  unfold takeMember?
  split
  · next hkey => rw [hkey]; rfl
  · next hkey =>
    simp only [hkey, bind, Option.bind_some]
    split
    · next hcolon => rw [hcolon]; rfl
    · next r₂ hcolon =>
      simp only [hcolon, Option.bind_some]
      split
      · next hname hvalue =>
        simp only [hname, hvalue, Option.bind_some, Option.pure_def]
        split
        · next hafter => rw [hafter]; rfl
        · next hafter => rw [hafter]; rfl
        · next hafter => rw [hafter]; rfl
      · next hnone =>
        cases hname : text? _ with
        | none => rfl
        | some name =>
          cases hvalue : takeValue? r₂ with
          | none => rfl
          | some p => exact absurd hvalue (hnone name p.1 p.2 hname)

/-- The members of an object are its items. -/
theorem memberReader :
  ItemReader .object takeMember? membersFrom? members?
  where
  take_skipBlank t := by simp only [takeMember?, takeValue?_skipBlank]
  take_closing := rfl
  from?_eq := membersFrom?_eq
  read?_eq r := by
    rw [Bracket.opening, members?]
    split
    · next hr => exact (if_pos hr).symm
    · next hr => exact (if_neg hr).symm
  opening_of_read? t xs h := by
    unfold members? at h
    split at h
    · exact ⟨_, rfl⟩
    · cases h

theorem afterColon?_append {b : Bytes} (hb : Blank b) (r : Bytes) :
  afterColon? (b ++ 0x3a :: r) = some r
  := by
  rw [afterColon?, skipBlank_append_of_blank hb, skipBlank_cons rfl]
  rfl

/-- The name that the key of a member stands for, and the value of the member. -/
def Member.Gives (m : Member) (n : String × Bytes) : Prop := text? m.key = some n.1 ∧ m.value = n.2

/-- A member is read as its name and its value. -/
theorem Member.Framed.takenAs {m : Member} (hm : m.Framed) (h : Delimited m.value)
    {n : String × Bytes} (hn : m.Gives n) :
  TakenAs takeMember? n m.text
  := by
  intro a rest ha hrest
  have hstops := hm.before.stops_append (t := 0x3a :: (m.after ++ (m.value ++ rest)))
    (stops_cons.2 rfl)
  have hkey := hm.key.delimited.takeValue?_blank_append ha hstops
  have hvalue := h.takeValue?_blank_append hm.after hrest
  obtain ⟨name, value⟩ := n
  obtain ⟨hname, rfl⟩ := hn
  simp only [takeMember?, Member.text, List.append_assoc, List.cons_append, hkey, bind,
    Option.bind_some, afterColon?_append hm.before, hname, hvalue, Option.pure_def]

/-- The member with a name and a value, without white space. -/
def Member.written (n : String × Bytes) : Member := ⟨Json.text n.1, [], [], n.2⟩

theorem Member.framed_written (n : String × Bytes) :
  (Member.written n).Framed
  := ⟨isString_literal _, blank_nil, blank_nil⟩

theorem Member.gives_written (n : String × Bytes) :
  (Member.written n).Gives n
  := ⟨text?_text n.1, rfl⟩

theorem object_eq (ms : List (String × Bytes)) :
  object ms = 0x7b :: separated (ms.map fun n => (Member.written n).text) ++ [0x7d]
  := rfl

/-- An object whose members have delimited texts is delimited. -/
theorem delimited_object {ms : List (String × Bytes)} (h : ∀ m ∈ ms, Delimited m.2) :
  Delimited (object ms)
  := by
  apply (spaced_separated _).delimited .object
  intro t ht
  obtain ⟨m, hm, rfl⟩ := List.mem_map.1 ht
  exact (Member.framed_written m).item (h m hm)

/-- An object is taken apart into its members. -/
theorem members?_object {ms : List (String × Bytes)} (h : ∀ m ∈ ms, Delimited m.2) :
  members? (object ms) = some ms
  := by
  apply memberReader.read?_spaced (spaced_separated _)
  induction ms with
  | nil => exact .nil
  | cons m ms ih =>
    have hm := (Member.framed_written m).takenAs (h m List.mem_cons_self) (Member.gives_written m)
    exact .cons hm (ih fun n hn => h n (List.mem_cons_of_mem m hn))

theorem isText_object {ms : List (String × Bytes)} (h : ∀ m ∈ ms, Bytes.IsText m.2) :
  Bytes.IsText (object ms)
  := by
  have hopen : Bytes.IsText [0x7b] := Bytes.IsText.of_isAscii (by simp [Bytes.IsAscii])
  have hclose : Bytes.IsText [0x7d] := Bytes.IsText.of_isAscii (by simp [Bytes.IsAscii])
  have hcolon : Bytes.IsText [0x3a] := Bytes.IsText.of_isAscii (by simp [Bytes.IsAscii])
  apply (hopen.append (isText_separated _)).append hclose
  intro t ht
  obtain ⟨m, hm, rfl⟩ := List.mem_map.1 ht
  exact (isText_literal (.ofText m.1)).append (hcolon.append (h m hm))

/-- An object is at least as long as its keys and values, or parts of them. -/
theorem sum_le_length_object {weight : String × Bytes → Nat}
    (h : ∀ m, weight m ≤ (text m.1).length + m.2.length) (ms : List (String × Bytes)) :
  (ms.map weight).sum ≤ (object ms).length
  := by
  have hmember : ∀ m, weight m ≤ (Member.written m).text.length := by
    intro m
    have hm := h m
    simp only [Member.written, Member.text, List.length_append, List.length_cons, List.length_nil]
    omega
  have hseparated := sum_le_length_separated hmember ms
  rw [object_eq]
  simp only [List.length_cons, List.length_append]
  omega

/-! ### Literals are no objects -/

theorem members?_literal (b : Bytes) :
  members? (literal b) = none
  := rfl

end LedgerTrust.Json
