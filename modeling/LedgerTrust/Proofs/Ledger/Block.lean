import LedgerTrust.Ledger.Block
import LedgerTrust.Proofs.Codec.Compact
import LedgerTrust.Proofs.Codec.Faithful
import LedgerTrust.Proofs.Data.Base64

/-!
# Headers are read back

The codecs of byte strings, of headers and of receipts are faithful, and in binary a header is
read back if its lists and texts have lengths that fit. So under either encoding the canonical
bytes of a header determine it.
-/

namespace LedgerTrust

namespace Codec

theorem faithful_hexBytes :
  Faithful hexBytes
  := faithful_literal (fun b => .of_isAscii (Bytes.isAscii_hexEncode b)) Hex.decode?_encode

theorem faithful_base64Bytes :
  Faithful base64Bytes
  := faithful_literal (fun b => .of_isAscii (Base64.isAscii_encode b)) Base64.decode?_encode

theorem faithful_digest :
  Faithful digest
  := by
  apply faithful_literal
  · exact fun d => .of_isAscii (Bytes.isAscii_hexEncode d.bytes)
  · intro d
    rw [Hex.decode?_encode, Option.bind_some, Digest.ofBytes?_bytes]

end Codec

open Codec Fields

theorem ValidationFlag.faithful_codec :
  ValidationFlag.codec.Faithful
  := faithful_enumeration fun v => by cases v <;> decide

theorem ValidationInfo.writesMembers_codec :
  ValidationInfo.codec.WritesMembers ["flag", "reason_if_invalid"]
  := by
  apply writesMembers_record _ fun _ => rfl
  apply Faithful.required ValidationFlag.faithful_codec _ (by decide)
  exact .defaulted faithful_text "" faithful_done (by decide)

theorem BaseHeader.faithful_codec :
  BaseHeader.codec.Faithful
  := by
  apply faithful_record _ fun _ => rfl
  apply Faithful.required faithful_u64 _ (by decide)
  apply Faithful.required faithful_digest _ (by decide)
  apply Faithful.required faithful_digest _ (by decide)
  exact .required faithful_u64 faithful_done (by decide)

theorem BlockHeader.faithful_codec :
  BlockHeader.codec.Faithful
  := by
  apply faithful_record _ fun _ => rfl
  apply Faithful.required BaseHeader.faithful_codec _ (by decide)
  apply Faithful.required faithful_digest.list _ (by decide)
  apply Faithful.required faithful_digest _ (by decide)
  apply Faithful.required faithful_digest _ (by decide)
  exact .required ValidationInfo.writesMembers_codec.faithful.list faithful_done (by decide)

theorem TxReceipt.faithful_codec :
  TxReceipt.codec.Faithful
  := by
  apply faithful_record _ fun _ => rfl
  apply Faithful.required BlockHeader.faithful_codec _ (by decide)
  exact .required faithful_u64 faithful_done (by decide)

/-! ### Headers in binary -/

theorem Codec.compact_hexBytes :
  Compact hexBytes (LiteralFits Hex.encode)
  := compact_literal Hex.decode?_encode

theorem Codec.compact_base64Bytes :
  Compact base64Bytes (LiteralFits Base64.encode)
  := compact_literal Base64.decode?_encode

/-- There is always room for the length of a digest. -/
theorem Codec.compact_digest :
  Compact digest fun _ => True
  := by
  have hread : ∀ d : Digest, (Hex.decode? (Hex.encode d.bytes)).bind Digest.ofBytes? = some d := by
    intro d
    rw [Hex.decode?_encode, Option.bind_some, Digest.ofBytes?_bytes]
  apply (compact_literal hread).of_iff
  intro d
  rw [LiteralFits, Hex.length_encode, d.length_bytes]
  decide

theorem ValidationFlag.compact_codec :
  codec.Compact fun _ => True
  := compact_enumeration (fun f => by cases f <;> decide) (by decide)

def ValidationInfo.Fits (v : ValidationInfo) : Prop := TextFits v.reason

theorem ValidationInfo.compact_codec :
  codec.Compact Fits
  := by
  apply Compact.of_iff
  · apply compact_record (List.cons_ne_nil _ _) fun _ => rfl
    apply Compact.required ValidationFlag.compact_codec
    exact .defaulted compact_text compact_done ""
  · simp [Fits]

theorem BaseHeader.compact_codec :
  codec.Compact fun _ => True
  := by
  apply Compact.of_iff
  · apply compact_record (List.cons_ne_nil _ _) fun _ => rfl
    apply Compact.required compact_u64
    apply Compact.required compact_digest
    apply Compact.required compact_digest
    exact .required compact_u64 compact_done
  · simp

namespace BlockHeader

/-- The lists and texts of a header are shorter than `2 ^ 64`, so that the binary form has room
for their lengths. Every header that a machine of words of 64 bits can hold is so. -/
structure Fits (h : BlockHeader) : Prop where
  skipLinks : h.skipLinks.length < UInt64.size
  validation : h.validation.length < UInt64.size
  reasons : ∀ v ∈ h.validation, (Bytes.ofText v.reason).length < UInt64.size

theorem compact_codec :
  codec.Compact Fits
  := by
  apply Compact.of_iff
  · apply compact_record (List.cons_ne_nil _ _) fun _ => rfl
    apply Compact.required BaseHeader.compact_codec
    apply Compact.required compact_digest.list
    apply Compact.required compact_digest
    apply Compact.required compact_digest
    exact .required ValidationInfo.compact_codec.list compact_done
  · intro h
    constructor
    · intro hfits
      exact ⟨trivial, ⟨hfits.skipLinks, fun _ _ => trivial⟩, trivial, trivial,
        ⟨hfits.validation, hfits.reasons⟩, trivial⟩
    · rintro ⟨-, ⟨hlinks, -⟩, -, -, ⟨hvalidation, hreasons⟩, -⟩
      exact ⟨hlinks, hvalidation, hreasons⟩

/-- The canonical bytes of a header determine it. -/
theorem encode_injective {s : Scheme} {h h' : BlockHeader}
    (hfits : s.encoding = .binary → h.Fits ∧ h'.Fits)
    (he : s.encode codec h = s.encode codec h') :
  h = h'
  := by
  rw [Scheme.encode, Scheme.encode] at he
  cases hs : s.encoding with
  | json =>
    rw [hs] at he
    exact faithful_codec.json_injective he
  | binary =>
    obtain ⟨hh, hh'⟩ := hfits hs
    rw [hs] at he
    exact (compact_codec.readsBack h hh).eq_of_binary_eq (compact_codec.readsBack h' hh') he

end BlockHeader

def TxReceipt.Fits (r : TxReceipt) : Prop := r.header.Fits

theorem TxReceipt.compact_codec :
  codec.Compact Fits
  := by
  apply Compact.of_iff
  · apply compact_record (List.cons_ne_nil _ _) fun _ => rfl
    apply Compact.required BlockHeader.compact_codec
    exact .required compact_u64 compact_done
  · simp [Fits]

end LedgerTrust
