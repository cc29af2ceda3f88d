import LedgerTrust.Codec.Record
import LedgerTrust.Proofs.Data.TextMap
import LedgerTrust.Proofs.Json.Container

/-!
# Faithful codecs

A codec is faithful if what it writes in JSON is delimited, is a text, and is read back. Each
combinator of codecs keeps this, with a condition where there is one: a value that may be missing
must not be written as `null`, the names of an enumeration and of the fields of a record must
differ. For the fields of a record more is shown than that what they write is read: members with
other names may stand anywhere between them.
-/

namespace LedgerTrust

variable {α β : Type}

/-- What the codec writes in JSON is one value of JSON, and is read back. -/
structure Codec.Faithful (c : Codec α) : Prop where
  delimited : ∀ v, Json.Delimited (c.json v)
  isText : ∀ v, Bytes.IsText (c.json v)
  json?_json : ∀ v, c.json? (c.json v) = some v

namespace Codec

namespace Faithful

variable {c : Codec α}

/-- What is written is read back as a document. -/
theorem ofJson?_json (h : Faithful c) (v : α) :
  c.ofJson? (c.json v) = some v
  := by
  rw [ofJson?, (h.delimited v).document?_eq, Option.bind_some, h.json?_json]

/-- Values that are written alike are equal. -/
theorem json_injective (h : Faithful c) {v w : α} (he : c.json v = c.json w) :
  v = w
  := by
  have hv := h.json?_json v
  rw [he, h.json?_json] at hv
  exact (Option.some.inj hv).symm

theorem viaMap {write : β → α} {read : α → β} (h : Faithful c)
    (hread : ∀ v, read (write v) = v) :
  Faithful (c.viaMap write read)
  where
  delimited v := h.delimited (write v)
  isText v := h.isText (write v)
  json?_json v := by simp only [Codec.viaMap, h.json?_json, Option.map_some, hread]

end Faithful

/-! ### Single values -/

theorem faithful_u64 :
  Faithful u64
  where
  delimited v := Json.delimited_natural v.toNat
  isText v := Json.isText_natural v.toNat
  json?_json v := by
    have hlt : v.toNat < UInt64.size := v.toNat_lt
    simp [u64, Json.natural?_natural, hlt]

theorem faithful_u16 :
  Faithful u16
  where
  delimited v := Json.delimited_natural v.toNat
  isText v := Json.isText_natural v.toNat
  json?_json v := by
    have hlt : v.toNat < UInt16.size := v.toNat_lt
    simp [u16, Json.natural?_natural, hlt]

theorem faithful_bool :
  Faithful bool
  where
  delimited v := Json.delimited_boolWord v
  isText v := Json.isText_boolWord v
  json?_json v := by
    cases v with
    | false => rfl
    | true => rfl

theorem faithful_literal {write : α → Bytes} {read? : Bytes → Option α}
    (htext : ∀ v, Bytes.IsText (write v)) (hread : ∀ v, read? (write v) = some v) :
  Faithful (literal write read?)
  where
  delimited v := Json.delimited_literal (write v)
  isText v := Json.isText_literal (htext v)
  json?_json v := by simp [literal, Json.literal?_literal, hread]

theorem faithful_text :
  Faithful text
  := faithful_literal .ofText Bytes.toText?_ofText

/-- The values of an enumeration are read back if each is found by its name. -/
theorem faithful_enumeration [DecidableEq α] {all : List α} {name : α → String}
    (hfind : ∀ v, all.find? (name · = name v) = some v) :
  Faithful (enumeration all name)
  where
  delimited v := Json.delimited_literal _
  isText v := Json.isText_literal (.ofText (name v))
  json?_json v := by
    have hmembers : Json.members? (Json.text (name v)) = none := Json.members?_literal _
    simp [enumeration, hmembers, Json.text?_text, hfind]

/-! ### Collections -/

theorem Faithful.option {c : Codec α} (h : Faithful c) (hnull : ∀ v, c.json v ≠ Json.nullWord) :
  Faithful c.option
  where
  delimited v := by
    cases v with
    | none => exact Json.delimited_nullWord
    | some v => exact h.delimited v
  isText v := by
    cases v with
    | none => exact Json.isText_nullWord
    | some v => exact h.isText v
  json?_json v := by
    cases v with
    | none => simp [Codec.option]
    | some v => simp [Codec.option, hnull v, h.json?_json]

theorem mapM_json? {c : Codec α} (h : Faithful c) (vs : List α) :
  (vs.map c.json).mapM c.json? = some vs
  := by
  induction vs with
  | nil => rfl
  | cons v vs ih => simp [h.json?_json, ih]

theorem Faithful.list {c : Codec α} (h : Faithful c) :
  Faithful (list c)
  where
  delimited vs := Json.delimited_array (by simp [h.delimited])
  isText vs := Json.isText_array (by simp [h.isText])
  json?_json vs := by
    have hparts : Json.elements? (Json.array (vs.map c.json)) = some (vs.map c.json) :=
      Json.elements?_array (by simp [h.delimited])
    simp only [Codec.list, hparts, Option.bind_some, mapM_json? h]

theorem faithful_textSet :
  Faithful textSet
  := faithful_text.list.viaMap TextSet.ofTexts_keys

theorem mapM_entries {c : Codec α} (h : Faithful c) (es : List (String × α)) :
  (es.map fun (k, v) => (k, c.json v)).mapM (fun (k, t) => (c.json? t).map fun v => (k, v))
    = some es
  := by
  induction es with
  | nil => rfl
  | cons e es ih => simp [h.json?_json, ih]

theorem Faithful.textMap {c : Codec α} (h : Faithful c) :
  Faithful (textMap c)
  := by
  have hvalue : ∀ (m : TextMap α), ∀ e ∈ m.entries.map fun (k, v) => (k, c.json v),
      ∃ v, e.2 = c.json v := by
    intro m e he
    obtain ⟨⟨k, v⟩, -, rfl⟩ := List.mem_map.1 he
    exact ⟨v, rfl⟩
  have hdelimited : ∀ (m : TextMap α), ∀ e ∈ m.entries.map fun (k, v) => (k, c.json v),
      Json.Delimited e.2 := by
    intro m e he
    obtain ⟨v, hv⟩ := hvalue m e he
    rw [hv]
    exact h.delimited v
  constructor
  · exact fun m => Json.delimited_object (hdelimited m)
  · intro m
    apply Json.isText_object
    intro e he
    obtain ⟨v, hv⟩ := hvalue m e he
    rw [hv]
    exact h.isText v
  · intro m
    have hparts := Json.members?_object (hdelimited m)
    simp only [Codec.textMap, hparts, bind, Option.bind_some, mapM_entries h,
      TextMap.ofList_entries]
    rfl

end Codec

/-! ### Fields -/

/-- What the fields write is one value of JSON for each name, and from an object whose members
with these names are just these, whatever other members there are, it is read back. -/
structure Fields.Faithful (f : Fields α) : Prop where
  nodup : f.names.Nodup
  length_json : ∀ v, (f.json v).length = f.names.length
  delimited : ∀ v, ∀ t ∈ f.json v, Json.Delimited t
  isText : ∀ v, ∀ t ∈ f.json v, Bytes.IsText t
  ofMembers?_eq : ∀ v ms, ms.filter (fun m => f.names.contains m.1) = f.names.zip (f.json v) →
    f.ofMembers? ms = some v

namespace Fields

theorem faithful_done :
  Faithful done
  where
  nodup := .nil
  length_json _ := rfl
  delimited _ := nofun
  isText _ := nofun
  ofMembers?_eq _ _ _ := rfl

/-- The members that are left of a filtered list. -/
theorem filter_eq_of_filter {ms ns : List (String × Bytes)} {p q : String × Bytes → Bool}
    (h : ms.filter p = ns) (hq : ∀ m, q m = true → p m = true) :
  ms.filter q = ns.filter q
  := by
  rw [← h, List.filter_filter]
  apply List.filter_congr
  intro m _
  cases hm : q m with
  | false => rfl
  | true => simp [hq m hm]

theorem Faithful.field {c : Codec α} {f : Fields β} {name : String} (hc : c.Faithful)
    (hf : f.Faithful) (hname : name ∉ f.names) (member element : Option α) :
  Faithful (field name c member element f)
  where
  nodup := List.nodup_cons.2 ⟨hname, hf.nodup⟩
  length_json v := congrArg (· + 1) (hf.length_json v.2)
  delimited v := by
    intro t ht
    rcases List.mem_cons.1 ht with rfl | ht
    · exact hc.delimited v.1
    · exact hf.delimited v.2 t ht
  isText v := by
    intro t ht
    rcases List.mem_cons.1 ht with rfl | ht
    · exact hc.isText v.1
    · exact hf.isText v.2 t ht
  ofMembers?_eq v ms hms := by
    have hothers : ∀ m ∈ f.names.zip (f.json v.2), m.1 ∈ f.names := fun m hm =>
      (List.of_mem_zip hm).1
    have hfirst : textsOf name ms = [c.json v.1] := by
      rw [textsOf, filter_eq_of_filter hms (by simp [Fields.field])]
      have hnone : (f.names.zip (f.json v.2)).filter (fun m => decide (m.1 = name)) = [] := by
        apply List.filter_eq_nil_iff.2
        intro m hm he
        exact hname (of_decide_eq_true he ▸ hothers m hm)
      simp [Fields.field, hnone]
    have hrest : ms.filter (fun m => f.names.contains m.1) = f.names.zip (f.json v.2) := by
      rw [filter_eq_of_filter hms (by simp +contextual [Fields.field])]
      have hall : (f.names.zip (f.json v.2)).filter (fun m => f.names.contains m.1)
          = f.names.zip (f.json v.2) := by
        apply List.filter_eq_self.2
        intro m hm
        simpa using hothers m hm
      simp only [Fields.field, List.zip_cons_cons]
      rw [List.filter_cons_of_neg (by simpa using hname), hall]
    simp [Fields.field, hfirst, hc.json?_json, hf.ofMembers?_eq v.2 ms hrest]

variable {c : Codec α} {f : Fields β} {name : String}

theorem Faithful.required (hc : c.Faithful) (hf : f.Faithful) (hname : name ∉ f.names) :
  Faithful (required name c f)
  := .field hc hf hname none none

theorem Faithful.optional (hc : c.Faithful) (hnull : ∀ v, c.json v ≠ Json.nullWord)
    (hf : f.Faithful) (hname : name ∉ f.names) :
  Faithful (optional name c f)
  := .field (hc.option hnull) hf hname (some none) none

theorem Faithful.defaulted (hc : c.Faithful) (value : α) (hf : f.Faithful)
    (hname : name ∉ f.names) :
  Faithful (defaulted name c value f)
  := .field hc hf hname (some value) (some value)

end Fields

/-! ### Records -/

namespace Codec

/-- The members of a record that is written. -/
theorem members?_product {f : Fields α} (hf : f.Faithful) (v : α) :
  Json.members? ((product f).json v) = some (f.names.zip (f.json v))
  := by
  apply Json.members?_object
  intro m hm
  exact hf.delimited v m.2 (List.of_mem_zip hm).2

theorem faithful_product {f : Fields α} (hf : f.Faithful) :
  Faithful (product f)
  where
  delimited v := Json.delimited_object fun m hm => hf.delimited v m.2 (List.of_mem_zip hm).2
  isText v := Json.isText_object fun m hm => hf.isText v m.2 (List.of_mem_zip hm).2
  json?_json v := by
    have hmembers := members?_product hf v
    have hkeep : (f.names.zip (f.json v)).filter (fun m => f.names.contains m.1)
        = f.names.zip (f.json v) := by
      apply List.filter_eq_self.2
      intro m hm
      simpa using (List.of_mem_zip hm).1
    unfold product at hmembers ⊢
    simp only [hmembers, hf.ofMembers?_eq v _ hkeep]

theorem faithful_record {write : α → β} {read : β → α} {f : Fields β} (hf : f.Faithful)
    (hread : ∀ v, read (write v) = v) :
  Faithful (record write read f)
  := (faithful_product hf).viaMap hread

/-- No record is written as `null`. -/
theorem json_record_ne_nullWord {write : α → β} {read : β → α} {f : Fields β} (v : α) :
  (record write read f).json v ≠ Json.nullWord
  := nofun

/-- The codec is faithful and writes objects whose members have the given names. -/
structure WritesMembers (c : Codec α) (names : List String) : Prop where
  faithful : c.Faithful
  json_eq : ∀ v, ∃ ts, c.json v = Json.object (names.zip ts) ∧ ts.length = names.length
    ∧ ∀ t ∈ ts, Json.Delimited t

theorem writesMembers_record {write : α → β} {read : β → α} {f : Fields β} (hf : f.Faithful)
    (hread : ∀ v, read (write v) = v) :
  WritesMembers (record write read f) f.names
  where
  faithful := faithful_record hf hread
  json_eq v := ⟨f.json (write v), rfl, hf.length_json (write v), hf.delimited (write v)⟩

/-- What is written tells the names of the members. -/
theorem WritesMembers.names_eq {c : Codec α} {d : Codec β} {names names' : List String}
    (hc : c.WritesMembers names) (hd : d.WritesMembers names') {v : α} {w : β}
    (h : c.json v = d.json w) :
  names = names'
  := by
  obtain ⟨ts, hts, hlength, hdelimited⟩ := hc.json_eq v
  obtain ⟨us, hus, hlength', hdelimited'⟩ := hd.json_eq w
  have hmembers := Json.members?_object fun m (hm : m ∈ names.zip ts) =>
    hdelimited m.2 (List.of_mem_zip hm).2
  have hmembers' := Json.members?_object fun m (hm : m ∈ names'.zip us) =>
    hdelimited' m.2 (List.of_mem_zip hm).2
  rw [← hts, h, hus, hmembers'] at hmembers
  have hnames := congrArg (List.map Prod.fst) (Option.some.inj hmembers)
  rw [List.map_fst_zip (Nat.le_of_eq hlength.symm),
    List.map_fst_zip (Nat.le_of_eq hlength'.symm)] at hnames
  exact hnames.symm

/-- What is written is at least as long as the names of its members. -/
theorem WritesMembers.le_length {c : Codec α} {names : List String} (hc : c.WritesMembers names)
    (v : α) :
  (names.map fun n => (Json.text n).length).sum ≤ (c.json v).length
  := by
  obtain ⟨ts, hts, hlength, -⟩ := hc.json_eq v
  have hsum := Json.sum_le_length_object
    (fun m : String × Bytes => Nat.le_add_right (Json.text m.1).length m.2.length) (names.zip ts)
  have hnames : (names.zip ts).map (fun m => (Json.text m.1).length)
      = names.map fun n => (Json.text n).length := by
    conv => rhs; rw [← List.map_fst_zip (Nat.le_of_eq hlength.symm)]
    rw [List.map_map]
    rfl
  rwa [hts, ← hnames]

end Codec

end LedgerTrust
