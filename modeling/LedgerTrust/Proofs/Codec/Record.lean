import LedgerTrust.Codec.Record
import LedgerTrust.Proofs.Json.Value

/-!
# What records are read from

A record is read from a document that is an object with exactly one member for each field that is
required, whatever its other members are, or from one that is an array with the fields in order.
The two forms exclude each other.
-/

namespace LedgerTrust

variable {α β : Type}

/-! ### Fields -/

namespace Fields

variable {c : Codec α} {f : Fields β} {name : String} {v : α × β}

/-- In an object, a required field is the value of the only member with its name. -/
theorem ofMembers?_required_iff {ms : List (String × Bytes)} :
  (required name c f).ofMembers? ms = some v
    ↔ (∃ t, textsOf name ms = [t] ∧ c.json? t = some v.1) ∧ f.ofMembers? ms = some v.2
  := by
  obtain ⟨first, others⟩ := v
  rcases htexts : textsOf name ms with _ | ⟨t, _ | ⟨u, r⟩⟩
  · simp [required, field, htexts]
  · simp [required, field, htexts, Option.bind_eq_some_iff]
  · simp [required, field, htexts]

/-- In an array, a required field is the element at its place. -/
theorem ofElements?_required_iff {ts : List Bytes} :
  (required name c f).ofElements? ts = some v
    ↔ ∃ t r, ts = t :: r ∧ c.json? t = some v.1 ∧ f.ofElements? r = some v.2
  := by
  obtain ⟨first, others⟩ := v
  cases ts with
  | nil => simp [required, field]
  | cons t r => simp [required, field, Option.bind_eq_some_iff]

theorem ofElements?_done_iff {ts : List Bytes} {u : Unit} :
  done.ofElements? ts = some u ↔ ts = []
  := by
  cases ts with
  | nil => simp [done]
  | cons t r => simp [done]

end Fields

/-! ### Records -/

namespace Codec

/-- A text is read as an object or as an array. -/
theorem json?_product_iff {f : Fields α} {t : Bytes} {v : α} :
  (product f).json? t = some v
    ↔ (∃ ms, Json.members? t = some ms ∧ f.ofMembers? ms = some v)
      ∨ ∃ ts, Json.elements? t = some ts ∧ f.ofElements? ts = some v
  := by
  cases hms : Json.members? t with
  | none => simp [product, hms, Option.bind_eq_some_iff]
  | some ms => simp [product, hms, Json.elements?_of_members? hms]

/-- A document is read as a record if its fields are. -/
theorem ofJson?_record_iff {write : α → β} {read : β → α} {f : Fields β} {t : Bytes} {w : α} :
  (record write read f).ofJson? t = some w
    ↔ ∃ d v, Json.document? t = some d ∧ read v = w ∧ (product f).json? d = some v
  := by
  simp only [ofJson?, record, viaMap, Option.bind_eq_some_iff, Option.map_eq_some_iff]
  constructor
  · rintro ⟨d, hd, v, hv, rfl⟩
    exact ⟨d, v, hd, rfl, hv⟩
  · rintro ⟨d, v, hd, rfl, hv⟩
    exact ⟨d, hd, v, hv, rfl⟩

end Codec

end LedgerTrust
