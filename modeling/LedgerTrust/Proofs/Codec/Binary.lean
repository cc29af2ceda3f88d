import LedgerTrust.Codec.Record

/-!
# Binary forms are read back

In binary a value is read back whatever bytes follow it, and these are left. This is shown value
by value, since it holds only where lengths fit: a list or a string is preceded by its length, for
which there are eight bytes. Each combinator of codecs keeps it.
-/

namespace LedgerTrust

variable {α β : Type}

/-- What the codec writes of a value in binary is read as this value, and what follows is left. -/
structure Codec.ReadsBack (c : Codec α) (v : α) : Prop where
  binary?_append : ∀ rest, c.binary? (c.binary v ++ rest) = some (v, rest)

/-- What the fields write of a value in binary is read as this value, and what follows is left. -/
structure Fields.ReadsBack (f : Fields α) (v : α) : Prop where
  binary?_append : ∀ rest, f.binary? (f.binary v ++ rest) = some (v, rest)

namespace Codec

/-- Values that are written alike are equal, where they are read back. -/
theorem ReadsBack.eq_of_binary_eq {c : Codec α} {v w : α} (hv : c.ReadsBack v)
    (hw : c.ReadsBack w) (h : c.binary v = c.binary w) :
  v = w
  := by
  have hread := hv.binary?_append []
  rw [h, hw.binary?_append []] at hread
  cases hread
  rfl

/-! ### Single values -/

theorem takeWord?_littleEndian {n x : Nat} (h : x < Nat.pow 256 n) (rest : Bytes) :
  takeWord? n (Bytes.littleEndian n x ++ rest) = some (x, rest)
  := by
  simp only [takeWord?, Bytes.split?_append (Bytes.length_littleEndian n x), Option.map_some,
    Bytes.ofLittleEndian_littleEndian h]

/-- A length that fits is read back. -/
theorem takeWord?_length {n : Nat} (h : n < UInt64.size) (rest : Bytes) :
  takeWord? 8 (Bytes.littleEndian 8 n ++ rest) = some (n, rest)
  := takeWord?_littleEndian h rest

theorem readsBack_u64 (v : UInt64) :
  u64.ReadsBack v
  where
  binary?_append rest := by
    simp only [u64, takeWord?_length v.toNat_lt, Option.map_some, UInt64.ofNat_toNat]

theorem readsBack_literal {write : α → Bytes} {read? : Bytes → Option α} {v : α}
    (hread : read? (write v) = some v) (hlength : (write v).length < UInt64.size) :
  (literal write read?).ReadsBack v
  where
  binary?_append rest := by
    simp only [literal, lengthAndBytes, List.append_assoc, takeWord?_length hlength, bind,
      Option.bind_some, Bytes.split?_append rfl, hread]
    rfl

/-- A value of an enumeration is read back from its position. -/
theorem readsBack_enumeration [DecidableEq α] {all : List α} {name : α → String} {v : α}
    (h : all[all.idxOf v]? = some v) (hlength : all.length < Nat.pow 256 4) :
  (enumeration all name).ReadsBack v
  where
  binary?_append rest := by
    have hlt : all.idxOf v < Nat.pow 256 4 :=
      Nat.lt_trans (List.getElem?_eq_some_iff.1 h).1 hlength
    simp only [enumeration, takeWord?_littleEndian hlt, bind, Option.bind_some, h]
    rfl

/-! ### Collections -/

theorem takeMany?_flatMap {c : Codec α} {vs : List α} (h : ∀ v ∈ vs, c.ReadsBack v)
    (rest : Bytes) :
  takeMany? c vs.length (vs.flatMap c.binary ++ rest) = some (vs, rest)
  := by
  induction vs with
  | nil => rfl
  | cons v vs ih =>
    have hv := (h v List.mem_cons_self).binary?_append
    have hvs := ih fun w hw => h w (List.mem_cons_of_mem v hw)
    simp only [List.length_cons, takeMany?, List.flatMap_cons, List.append_assoc, hv, bind,
      Option.bind_some, hvs]
    rfl

theorem ReadsBack.list {c : Codec α} {vs : List α} (h : ∀ v ∈ vs, c.ReadsBack v)
    (hlength : vs.length < UInt64.size) :
  (list c).ReadsBack vs
  where
  binary?_append rest := by
    simp only [Codec.list, List.append_assoc, takeWord?_length hlength, bind, Option.bind_some,
      takeMany?_flatMap h]

end Codec

/-! ### Records -/

namespace Fields

theorem readsBack_done (v : Unit) :
  done.ReadsBack v
  where
  binary?_append _ := rfl

variable {c : Codec α} {f : Fields β} {name : String} {v : α × β}

theorem ReadsBack.field (hc : c.ReadsBack v.1) (hf : f.ReadsBack v.2)
    (member element : Option α) :
  (field name c member element f).ReadsBack v
  where
  binary?_append rest := by
    simp only [Fields.field, List.append_assoc, hc.binary?_append, bind, Option.bind_some,
      hf.binary?_append]
    rfl

end Fields

theorem Codec.readsBack_record {write : α → β} {read : β → α} {f : Fields β} {v : α}
    (hf : f.ReadsBack (write v)) (hread : read (write v) = v) :
  (record write read f).ReadsBack v
  where
  binary?_append rest := by
    simp only [record, viaMap, product, hf.binary?_append, Option.map_some, hread]

end LedgerTrust
