import LedgerTrust.Ledger.Transaction
import LedgerTrust.Proofs.Ledger.Block

/-!
# Values with lengths that fit

The codecs of transactions and of their envelopes are compact: in binary a value is read back,
whatever follows, if its lengths fit in eight bytes. Of each type, `Fits` says what these lengths
are: those of its texts, of its byte strings as they are written, and of its lists, sets and maps,
in its parts as well.
-/

namespace LedgerTrust

open Codec Fields

/-! ### Parts of payloads -/

theorem Version.compact_codec :
  codec.Compact fun _ => True
  := by
  apply Compact.of_iff
  · apply compact_record (List.cons_ne_nil _ _) fun _ => rfl
    apply Compact.required compact_u64
    exact .required compact_u64 compact_done
  · simp

def AccessControl.Fits (a : AccessControl) : Prop := SetFits a.readers ∧ SetFits a.writers

theorem AccessControl.compact_codec :
  codec.Compact Fits
  := by
  apply Compact.of_iff
  · apply compact_record (List.cons_ne_nil _ _) fun _ => rfl
    apply Compact.required compact_textSet
    exact .required compact_textSet compact_done
  · simp [Fits]

def DataRead.Fits (r : DataRead) : Prop := TextFits r.key

theorem DataRead.compact_codec :
  codec.Compact Fits
  := by
  apply Compact.of_iff
  · apply compact_record (List.cons_ne_nil _ _) fun _ => rfl
    apply Compact.required compact_text
    exact .optional Version.compact_codec compact_done
  · simp [Fits, OptionFits]

def DataWrite.Fits (w : DataWrite) : Prop :=
  TextFits w.key ∧ LiteralFits Base64.encode w.value ∧ OptionFits AccessControl.Fits w.acl

theorem DataWrite.compact_codec :
  codec.Compact Fits
  := by
  apply Compact.of_iff
  · apply compact_record (List.cons_ne_nil _ _) fun _ => rfl
    apply Compact.required compact_text
    apply Compact.required compact_base64Bytes
    exact .optional AccessControl.compact_codec compact_done
  · simp [Fits]

def DataDelete.Fits (d : DataDelete) : Prop := TextFits d.key

theorem DataDelete.compact_codec :
  codec.Compact Fits
  := by
  apply Compact.of_iff
  · apply compact_record (List.cons_ne_nil _ _) fun _ => rfl
    exact .required compact_text compact_done
  · simp [Fits]

def DatabaseOperations.Fits (o : DatabaseOperations) : Prop :=
  TextFits o.database ∧ ListFits DataRead.Fits o.reads ∧ ListFits DataWrite.Fits o.writes
    ∧ ListFits DataDelete.Fits o.deletes

theorem DatabaseOperations.compact_codec :
  codec.Compact Fits
  := by
  apply Compact.of_iff
  · apply compact_record (List.cons_ne_nil _ _) fun _ => rfl
    apply Compact.required compact_text
    apply Compact.required DataRead.compact_codec.list
    apply Compact.required DataWrite.compact_codec.list
    exact .required DataDelete.compact_codec.list compact_done
  · simp [Fits]

theorem Permission.compact_codec :
  (enumeration Permission.all Permission.name).Compact fun _ => True
  := compact_enumeration (fun v => by cases v <;> decide) (by decide)

def User.Fits (u : User) : Prop :=
  TextFits u.id ∧ LiteralFits Hex.encode u.publicKey ∧ MapFits (fun _ => True) u.permissions

theorem User.compact_codec :
  codec.Compact Fits
  := by
  apply Compact.of_iff
  · apply compact_record (List.cons_ne_nil _ _) fun _ => rfl
    apply Compact.required compact_text
    apply Compact.required compact_hexBytes
    apply Compact.required Permission.compact_codec.textMap
    exact .required compact_bool compact_done
  · simp [Fits]

def UserRead.Fits (r : UserRead) : Prop := TextFits r.userId

theorem UserRead.compact_codec :
  codec.Compact Fits
  := by
  apply Compact.of_iff
  · apply compact_record (List.cons_ne_nil _ _) fun _ => rfl
    apply Compact.required compact_text
    exact .optional Version.compact_codec compact_done
  · simp [Fits, OptionFits]

def UserWrite.Fits (w : UserWrite) : Prop := w.user.Fits ∧ OptionFits AccessControl.Fits w.acl

theorem UserWrite.compact_codec :
  codec.Compact Fits
  := by
  apply Compact.of_iff
  · apply compact_record (List.cons_ne_nil _ _) fun _ => rfl
    apply Compact.required User.compact_codec
    exact .optional AccessControl.compact_codec compact_done
  · simp [Fits]

def UserDelete.Fits (d : UserDelete) : Prop := TextFits d.userId

theorem UserDelete.compact_codec :
  codec.Compact Fits
  := by
  apply Compact.of_iff
  · apply compact_record (List.cons_ne_nil _ _) fun _ => rfl
    exact .required compact_text compact_done
  · simp [Fits]

def NodeConfig.Fits (n : NodeConfig) : Prop :=
  TextFits n.id ∧ TextFits n.address ∧ LiteralFits Hex.encode n.publicKey

theorem NodeConfig.compact_codec :
  codec.Compact Fits
  := by
  apply Compact.of_iff
  · apply compact_record (List.cons_ne_nil _ _) fun _ => rfl
    apply Compact.required compact_text
    apply Compact.required compact_text
    apply Compact.required compact_u16
    exact .required compact_hexBytes compact_done
  · simp [Fits]

def Admin.Fits (a : Admin) : Prop := TextFits a.id ∧ LiteralFits Hex.encode a.publicKey

theorem Admin.compact_codec :
  codec.Compact Fits
  := by
  apply Compact.of_iff
  · apply compact_record (List.cons_ne_nil _ _) fun _ => rfl
    apply Compact.required compact_text
    exact .required compact_hexBytes compact_done
  · simp [Fits]

def ClusterConfig.Fits (c : ClusterConfig) : Prop :=
  ListFits NodeConfig.Fits c.nodes ∧ ListFits Admin.Fits c.admins

theorem ClusterConfig.compact_codec :
  codec.Compact Fits
  := by
  apply Compact.of_iff
  · apply compact_record (List.cons_ne_nil _ _) fun _ => rfl
    apply Compact.required NodeConfig.compact_codec.list
    exact .required Admin.compact_codec.list compact_done
  · simp [Fits]

/-! ### Payloads and envelopes -/

def DataTx.Fits (t : DataTx) : Prop :=
  ListFits TextFits t.mustSign ∧ TextFits t.txId ∧ ListFits DatabaseOperations.Fits t.operations

theorem DataTx.compact_codec :
  codec.Compact Fits
  := by
  apply Compact.of_iff
  · apply compact_record (List.cons_ne_nil _ _) fun _ => rfl
    apply Compact.required compact_text.list
    apply Compact.required compact_text
    exact .required DatabaseOperations.compact_codec.list compact_done
  · simp [Fits]

def DatabaseTx.Fits (t : DatabaseTx) : Prop :=
  TextFits t.userId ∧ TextFits t.txId ∧ ListFits TextFits t.create ∧ ListFits TextFits t.delete

theorem DatabaseTx.compact_codec :
  codec.Compact Fits
  := by
  apply Compact.of_iff
  · apply compact_record (List.cons_ne_nil _ _) fun _ => rfl
    apply Compact.required compact_text
    apply Compact.required compact_text
    apply Compact.required compact_text.list
    exact .required compact_text.list compact_done
  · simp [Fits]

def UserTx.Fits (t : UserTx) : Prop :=
  TextFits t.userId ∧ TextFits t.txId ∧ ListFits UserRead.Fits t.reads
    ∧ ListFits UserWrite.Fits t.writes ∧ ListFits UserDelete.Fits t.deletes

theorem UserTx.compact_codec :
  codec.Compact Fits
  := by
  apply Compact.of_iff
  · apply compact_record (List.cons_ne_nil _ _) fun _ => rfl
    apply Compact.required compact_text
    apply Compact.required compact_text
    apply Compact.required UserRead.compact_codec.list
    apply Compact.required UserWrite.compact_codec.list
    exact .required UserDelete.compact_codec.list compact_done
  · simp [Fits]

def ConfigTx.Fits (t : ConfigTx) : Prop := TextFits t.userId ∧ TextFits t.txId ∧ t.newConfig.Fits

theorem ConfigTx.compact_codec :
  codec.Compact Fits
  := by
  apply Compact.of_iff
  · apply compact_record (List.cons_ne_nil _ _) fun _ => rfl
    apply Compact.required compact_text
    apply Compact.required compact_text
    apply Compact.optional Version.compact_codec
    exact .required ClusterConfig.compact_codec compact_done
  · simp [Fits, OptionFits]

def DataEnvelope.Fits (e : DataEnvelope) : Prop :=
  e.payload.Fits ∧ MapFits (LiteralFits Base64.encode) e.signatures

theorem DataEnvelope.compact_codec :
  codec.Compact Fits
  := by
  apply Compact.of_iff
  · apply compact_record (List.cons_ne_nil _ _) fun _ => rfl
    apply Compact.required DataTx.compact_codec
    exact .required compact_base64Bytes.textMap compact_done
  · simp [Fits]

def SignedPayload.Fits {α : Type} (fits : α → Prop) (p : SignedPayload α) : Prop :=
  fits p.payload ∧ LiteralFits Base64.encode p.signature

theorem SignedPayload.compact_codec {α : Type} {c : Codec α} {fits : α → Prop}
    (hc : c.Compact fits) :
  (SignedPayload.codec c).Compact (Fits fits)
  := by
  apply Compact.of_iff
  · apply compact_record (List.cons_ne_nil _ _) fun _ => rfl
    apply Compact.required hc
    exact .required compact_base64Bytes compact_done
  · simp [Fits]

namespace Envelope

def Fits : Envelope → Prop
  | .data e => e.Fits
  | .database e => e.Fits DatabaseTx.Fits
  | .user e => e.Fits UserTx.Fits
  | .config e => e.Fits ConfigTx.Fits

/-- The number of a kind is read back. -/
theorem takeWord?_kind (k : TxKind) (rest : Bytes) :
  takeWord? 4 (Bytes.littleEndian 4 (TxKind.all.idxOf k) ++ rest) = some (TxKind.all.idxOf k, rest)
  := takeWord?_littleEndian (by cases k <;> decide) rest

theorem getElem?_kind (k : TxKind) :
  TxKind.all[TxKind.all.idxOf k]? = some k
  := by
  cases k <;> rfl

/-- The content of an envelope is written, and read for its kind, by one codec. -/
theorem exists_compact (e : Envelope) :
  ∃ (α : Type) (c : Codec α) (fits : α → Prop) (wrap : α → Envelope) (v : α), c.Compact fits
    ∧ wrap v = e ∧ (e.Fits ↔ fits v) ∧ e.content .binary = c.binary v
    ∧ ∀ b, ofNumbered? e.kind b = (c.binary? b).map fun (w, r) => (wrap w, r)
  := by
  cases e with
  | data e => exact ⟨_, _, _, _, _, DataEnvelope.compact_codec, rfl, .rfl, rfl, fun _ => rfl⟩
  | database e =>
    have hc := SignedPayload.compact_codec DatabaseTx.compact_codec
    exact ⟨_, _, _, _, _, hc, rfl, .rfl, rfl, fun _ => rfl⟩
  | user e =>
    have hc := SignedPayload.compact_codec UserTx.compact_codec
    exact ⟨_, _, _, _, _, hc, rfl, .rfl, rfl, fun _ => rfl⟩
  | config e =>
    have hc := SignedPayload.compact_codec ConfigTx.compact_codec
    exact ⟨_, _, _, _, _, hc, rfl, .rfl, rfl, fun _ => rfl⟩

/-- The content of an envelope is read back as one of its kind. -/
theorem ofNumbered?_content {e : Envelope} (h : e.Fits) (rest : Bytes) :
  ofNumbered? e.kind (e.content .binary ++ rest) = some (e, rest)
  := by
  obtain ⟨α, c, fits, wrap, v, hc, rfl, hfits, hcontent, hread⟩ := e.exists_compact
  rw [hread, hcontent, (hc.readsBack v (hfits.1 h)).binary?_append, Option.map_some]

theorem fits_of_length_content {e : Envelope}
    (h : (e.content .binary).length < UInt64.size) :
  e.Fits
  := by
  obtain ⟨α, c, fits, wrap, v, hc, -, hfits, hcontent, -⟩ := e.exists_compact
  rw [hcontent] at h
  exact hfits.2 (hc.fits_of_length v h)

theorem compact_codec :
  codec.Compact Fits
  where
  pos e := by
    simp only [codec, List.length_append, Bytes.length_littleEndian]
    omega
  fits_of_length e hlength := by
    simp only [codec, List.length_append] at hlength
    exact fits_of_length_content (by omega)
  readsBack e he := by
    constructor
    intro rest
    simp only [codec, List.append_assoc, takeWord?_kind, bind, Option.bind_some, getElem?_kind,
      ofNumbered?_content he]

end Envelope

end LedgerTrust
