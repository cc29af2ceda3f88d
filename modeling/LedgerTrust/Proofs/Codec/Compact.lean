import LedgerTrust.Proofs.Codec.Binary
import LedgerTrust.Proofs.Data.TextMap

/-!
# Compact codecs

In binary a text or a list is read back if there is room for its length in eight bytes. Beside each
combinator of codecs stands the condition on values that says so of all lengths that are written. A
codec is compact if a value is read back wherever its lengths fit, and if these fit wherever what
is written as a whole is shorter than `2 ^ 64` bytes: then so is each part of it, and no list has
more items than bytes.
-/

namespace LedgerTrust

variable {α β : Type}

/-- What the codec writes in binary is not empty, and is read back, whatever follows, if the value
fits; and it fits if the length of the whole does. -/
structure Codec.Compact (c : Codec α) (fits : α → Prop) : Prop where
  pos : ∀ v, 0 < (c.binary v).length
  fits_of_length : ∀ v, (c.binary v).length < UInt64.size → fits v
  readsBack : ∀ v, fits v → c.ReadsBack v

/-- What the fields write in binary is not empty if there are fields, and is read back, whatever
follows, if the values fit; and they fit if the length of the whole does. -/
structure Fields.Compact (f : Fields α) (fits : α → Prop) : Prop where
  pos : f.names ≠ [] → ∀ v, 0 < (f.binary v).length
  fits_of_length : ∀ v, (f.binary v).length < UInt64.size → fits v
  readsBack : ∀ v, fits v → f.ReadsBack v

/-! ### Lengths -/

/-- There are not more items than bytes if no item is written as nothing. -/
theorem length_le_length_flatMap {write : α → Bytes} (hpos : ∀ v, 0 < (write v).length)
    (vs : List α) :
  vs.length ≤ (vs.flatMap write).length
  := by
  induction vs with
  | nil => exact Nat.le_refl 0
  | cons v vs ih =>
    have hv := hpos v
    rw [List.flatMap_cons, List.length_append, List.length_cons]
    omega

theorem length_le_length_flatMap_of_mem {write : α → Bytes} {vs : List α} {v : α} (h : v ∈ vs) :
  (write v).length ≤ (vs.flatMap write).length
  := by
  obtain ⟨front, rest, rfl⟩ := List.append_of_mem h
  rw [List.flatMap_append, List.flatMap_cons, List.length_append, List.length_append]
  omega

namespace Codec

/-! ### Values that fit -/

/-- The string that a value is written as has a length that fits. -/
def LiteralFits (write : α → Bytes) (v : α) : Prop := (write v).length < UInt64.size

def TextFits : String → Prop := LiteralFits Bytes.ofText

def OptionFits (fits : α → Prop) (v : Option α) : Prop := ∀ w ∈ v, fits w

/-- A list has a length that fits, and its items fit. -/
def ListFits (fits : α → Prop) (vs : List α) : Prop :=
  vs.length < UInt64.size ∧ ∀ v ∈ vs, fits v

def SetFits (t : TextSet) : Prop := ListFits TextFits t.keys

def MapFits (fits : α → Prop) (m : TextMap α) : Prop :=
  ListFits (fun (k, v) => TextFits k ∧ fits v) m.entries

namespace Compact

variable {c : Codec α} {fits : α → Prop}

/-- The condition of a codec may be said in other words. -/
theorem of_iff {fits' : α → Prop} (h : Compact c fits) (hfits : ∀ v, fits' v ↔ fits v) :
  Compact c fits'
  where
  pos := h.pos
  fits_of_length v hlength := (hfits v).2 (h.fits_of_length v hlength)
  readsBack v hv := h.readsBack v ((hfits v).1 hv)

theorem viaMap {write : β → α} {read : α → β} (h : Compact c fits)
    (hread : ∀ v, read (write v) = v) :
  Compact (c.viaMap write read) fun v => fits (write v)
  where
  pos v := h.pos (write v)
  fits_of_length v := h.fits_of_length (write v)
  readsBack v hv := by
    constructor
    intro rest
    have hwritten := (h.readsBack (write v) hv).binary?_append rest
    simp only [Codec.viaMap, hwritten, Option.map_some, hread]

end Compact

/-! ### Single values -/

theorem compact_u64 :
  Compact u64 fun _ => True
  where
  pos v := by simp [u64]
  fits_of_length _ _ := trivial
  readsBack v _ := readsBack_u64 v

theorem compact_u16 :
  Compact u16 fun _ => True
  where
  pos v := by simp [u16]
  fits_of_length _ _ := trivial
  readsBack v _ := by
    constructor
    intro rest
    have hlt : v.toNat < Nat.pow 256 2 := v.toNat_lt
    simp only [u16, takeWord?_littleEndian hlt, Option.map_some, UInt16.ofNat_toNat]

theorem compact_bool :
  Compact bool fun _ => True
  where
  pos v := Nat.zero_lt_one
  fits_of_length _ _ := trivial
  readsBack v _ := by
    constructor
    intro rest
    cases v with
    | false => rfl
    | true => rfl

theorem compact_literal {write : α → Bytes} {read? : Bytes → Option α}
    (hread : ∀ v, read? (write v) = some v) :
  Compact (literal write read?) (LiteralFits write)
  where
  pos v := by
    simp only [literal, lengthAndBytes, List.length_append, Bytes.length_littleEndian]
    omega
  fits_of_length v hlength := by
    simp only [literal, lengthAndBytes, List.length_append] at hlength
    unfold LiteralFits
    omega
  readsBack v hv := readsBack_literal (hread v) hv

theorem compact_text :
  Compact text TextFits
  := compact_literal Bytes.toText?_ofText

theorem compact_enumeration [DecidableEq α] {all : List α} {name : α → String}
    (hall : ∀ v, all[all.idxOf v]? = some v) (hlength : all.length < Nat.pow 256 4) :
  Compact (enumeration all name) fun _ => True
  where
  pos v := by simp [enumeration]
  fits_of_length _ _ := trivial
  readsBack v _ := readsBack_enumeration (hall v) hlength

/-! ### Collections -/

theorem Compact.option {c : Codec α} {fits : α → Prop} (h : Compact c fits) :
  Compact c.option (OptionFits fits)
  where
  pos v := by
    cases v with
    | none => exact Nat.zero_lt_one
    | some v => exact Nat.succ_pos _
  fits_of_length v hlength := by
    rintro w ⟨⟩
    exact h.fits_of_length w (Nat.lt_of_succ_lt hlength)
  readsBack v hv := by
    constructor
    intro rest
    cases v with
    | none => rfl
    | some v =>
      have hread := (h.readsBack v (hv v rfl)).binary?_append rest
      simp only [Codec.option, List.cons_append, hread, Option.map_some]

/-- Items fit if the length of what is written of them all does. -/
theorem listFits_of_length (write : α → Bytes) {fits : α → Prop}
    (hpos : ∀ v, 0 < (write v).length) (hfits : ∀ v, (write v).length < UInt64.size → fits v)
    {vs : List α} (hlength : (vs.flatMap write).length < UInt64.size) :
  ListFits fits vs
  := by
  constructor
  · exact Nat.lt_of_le_of_lt (length_le_length_flatMap hpos vs) hlength
  · intro v hv
    exact hfits v (Nat.lt_of_le_of_lt (length_le_length_flatMap_of_mem hv) hlength)

theorem Compact.list {c : Codec α} {fits : α → Prop} (h : Compact c fits) :
  Compact (list c) (ListFits fits)
  where
  pos vs := by
    rw [Codec.list, List.length_append, Bytes.length_littleEndian]
    omega
  fits_of_length vs hlength := by
    simp only [Codec.list, List.length_append] at hlength
    exact listFits_of_length c.binary h.pos h.fits_of_length (by omega)
  readsBack vs hvs := ReadsBack.list (fun v hv => h.readsBack v (hvs.2 v hv)) hvs.1

theorem compact_textSet :
  Compact textSet SetFits
  := compact_text.list.viaMap TextSet.ofTexts_keys

/-- What is written in binary of an entry of a map. -/
def entryBinary (c : Codec α) : String × α → Bytes := fun (k, v) => text.binary k ++ c.binary v

theorem takeEntries?_flatMap {c : Codec α} {es : List (String × α)}
    (htext : ∀ e ∈ es, text.ReadsBack e.1) (hvalue : ∀ e ∈ es, c.ReadsBack e.2) (rest : Bytes) :
  takeEntries? c es.length (es.flatMap (entryBinary c) ++ rest) = some (es, rest)
  := by
  induction es with
  | nil => rfl
  | cons e es ih =>
    have hk := (htext e List.mem_cons_self).binary?_append
    have hv := (hvalue e List.mem_cons_self).binary?_append
    have hes := ih (fun e' he => htext e' (List.mem_cons_of_mem e he))
      fun e' he => hvalue e' (List.mem_cons_of_mem e he)
    simp only [List.length_cons, takeEntries?, List.flatMap_cons, entryBinary, List.append_assoc,
      hk, hv, bind, Option.bind_some] at hes ⊢
    rw [hes]
    rfl

theorem ReadsBack.textMap {c : Codec α} {m : TextMap α}
    (htext : ∀ e ∈ m.entries, text.ReadsBack e.1) (hvalue : ∀ e ∈ m.entries, c.ReadsBack e.2)
    (hlength : m.entries.length < UInt64.size) :
  (textMap c).ReadsBack m
  where
  binary?_append rest := by
    have hentries : takeEntries? c m.entries.length
        ((m.entries.flatMap fun (k, v) => text.binary k ++ c.binary v) ++ rest)
          = some (m.entries, rest) :=
      takeEntries?_flatMap htext hvalue rest
    simp only [Codec.textMap, TextMap.size, List.append_assoc, takeWord?_length hlength, bind,
      Option.bind_some, hentries, TextMap.ofList_entries]
    rfl

theorem Compact.textMap {c : Codec α} {fits : α → Prop} (h : Compact c fits) :
  Compact (textMap c) (MapFits fits)
  where
  pos m := by
    rw [Codec.textMap, List.length_append, Bytes.length_littleEndian]
    omega
  fits_of_length m hlength := by
    have hentry : ∀ e, (entryBinary c e).length = (text.binary e.1).length + (c.binary e.2).length :=
      fun e => List.length_append
    apply listFits_of_length (entryBinary c)
    · intro e
      rw [hentry]
      exact Nat.add_pos_right _ (h.pos e.2)
    · intro e he
      rw [hentry] at he
      constructor
      · exact compact_text.fits_of_length e.1 (by omega)
      · exact h.fits_of_length e.2 (by omega)
    · rw [Codec.textMap, List.length_append] at hlength
      exact Nat.lt_of_le_of_lt (Nat.le_add_left _ _) hlength
  readsBack m hm := by
    apply ReadsBack.textMap
    · exact fun e he => compact_text.readsBack e.1 (hm.2 e he).1
    · exact fun e he => h.readsBack e.2 (hm.2 e he).2
    · exact hm.1

end Codec

/-! ### Records -/

namespace Fields

theorem compact_done :
  Compact done fun _ => True
  where
  pos h := absurd rfl h
  fits_of_length _ _ := trivial
  readsBack v _ := readsBack_done v

variable {c : Codec α} {f : Fields β} {name : String} {fits : α → Prop} {fits' : β → Prop}

theorem Compact.field (hc : c.Compact fits) (hf : f.Compact fits') (member element : Option α) :
  Compact (field name c member element f) fun v => fits v.1 ∧ fits' v.2
  where
  pos _ v := by
    have hv := hc.pos v.1
    simp only [Fields.field, List.length_append]
    omega
  fits_of_length v hlength := by
    simp only [Fields.field, List.length_append] at hlength
    constructor
    · exact hc.fits_of_length v.1 (by omega)
    · exact hf.fits_of_length v.2 (by omega)
  readsBack v hv := .field (hc.readsBack v.1 hv.1) (hf.readsBack v.2 hv.2) member element

theorem Compact.required (hc : c.Compact fits) (hf : f.Compact fits') :
  Compact (required name c f) fun v => fits v.1 ∧ fits' v.2
  := .field hc hf none none

theorem Compact.optional (hc : c.Compact fits) (hf : f.Compact fits') :
  Compact (optional name c f) fun v => Codec.OptionFits fits v.1 ∧ fits' v.2
  := .field hc.option hf (some none) none

theorem Compact.defaulted (hc : c.Compact fits) (hf : f.Compact fits') (value : α) :
  Compact (defaulted name c value f) fun v => fits v.1 ∧ fits' v.2
  := .field hc hf (some value) (some value)

end Fields

theorem Codec.compact_record {write : α → β} {read : β → α} {f : Fields β} {fits : β → Prop}
    (hnames : f.names ≠ []) (hread : ∀ v, read (write v) = v) (hf : f.Compact fits) :
  Compact (record write read f) fun v => fits (write v)
  where
  pos v := hf.pos hnames (write v)
  fits_of_length v := hf.fits_of_length (write v)
  readsBack v hv := readsBack_record (hf.readsBack (write v) hv) (hread v)

end LedgerTrust
