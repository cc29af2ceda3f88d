import LedgerTrust.Ledger.Transaction
import LedgerTrust.Proofs.Ledger.Block

/-!
# Envelopes are read back

The codecs of transactions and of envelopes are faithful. The canonical bytes of an envelope do
not tell its kind, but the kinds differ in the names of the fields of their payloads; so in JSON
the canonical bytes determine the envelope, whatever text with an outcome follows them.
-/

namespace LedgerTrust

open Codec Fields

/-! ### Parts of payloads -/

theorem Version.faithful_codec :
  Version.codec.Faithful
  := by
  apply faithful_record _ fun _ => rfl
  apply Faithful.required faithful_u64 _ (by decide)
  exact .required faithful_u64 faithful_done (by decide)

theorem AccessControl.faithful_codec :
  AccessControl.codec.Faithful
  := by
  apply faithful_record _ fun _ => rfl
  apply Faithful.required faithful_textSet _ (by decide)
  exact .required faithful_textSet faithful_done (by decide)

theorem DataRead.faithful_codec :
  DataRead.codec.Faithful
  := by
  apply faithful_record _ fun _ => rfl
  apply Faithful.required faithful_text _ (by decide)
  exact .optional Version.faithful_codec json_record_ne_nullWord faithful_done (by decide)

theorem DataWrite.faithful_codec :
  DataWrite.codec.Faithful
  := by
  apply faithful_record _ fun _ => rfl
  apply Faithful.required faithful_text _ (by decide)
  apply Faithful.required faithful_base64Bytes _ (by decide)
  exact .optional AccessControl.faithful_codec json_record_ne_nullWord faithful_done (by decide)

theorem DataDelete.faithful_codec :
  DataDelete.codec.Faithful
  := by
  apply faithful_record _ fun _ => rfl
  exact .required faithful_text faithful_done (by decide)

theorem DatabaseOperations.faithful_codec :
  DatabaseOperations.codec.Faithful
  := by
  apply faithful_record _ fun _ => rfl
  apply Faithful.required faithful_text _ (by decide)
  apply Faithful.required DataRead.faithful_codec.list _ (by decide)
  apply Faithful.required DataWrite.faithful_codec.list _ (by decide)
  exact .required DataDelete.faithful_codec.list faithful_done (by decide)

theorem Permission.faithful_codec :
  (enumeration Permission.all Permission.name).Faithful
  := faithful_enumeration fun v => by cases v <;> decide

theorem User.faithful_codec :
  User.codec.Faithful
  := by
  apply faithful_record _ fun _ => rfl
  apply Faithful.required faithful_text _ (by decide)
  apply Faithful.required faithful_hexBytes _ (by decide)
  apply Faithful.required Permission.faithful_codec.textMap _ (by decide)
  exact .required faithful_bool faithful_done (by decide)

theorem UserRead.faithful_codec :
  UserRead.codec.Faithful
  := by
  apply faithful_record _ fun _ => rfl
  apply Faithful.required faithful_text _ (by decide)
  exact .optional Version.faithful_codec json_record_ne_nullWord faithful_done (by decide)

theorem UserWrite.faithful_codec :
  UserWrite.codec.Faithful
  := by
  apply faithful_record _ fun _ => rfl
  apply Faithful.required User.faithful_codec _ (by decide)
  exact .optional AccessControl.faithful_codec json_record_ne_nullWord faithful_done (by decide)

theorem UserDelete.faithful_codec :
  UserDelete.codec.Faithful
  := by
  apply faithful_record _ fun _ => rfl
  exact .required faithful_text faithful_done (by decide)

theorem NodeConfig.faithful_codec :
  NodeConfig.codec.Faithful
  := by
  apply faithful_record _ fun _ => rfl
  apply Faithful.required faithful_text _ (by decide)
  apply Faithful.required faithful_text _ (by decide)
  apply Faithful.required faithful_u16 _ (by decide)
  exact .required faithful_hexBytes faithful_done (by decide)

theorem Admin.faithful_codec :
  Admin.codec.Faithful
  := by
  apply faithful_record _ fun _ => rfl
  apply Faithful.required faithful_text _ (by decide)
  exact .required faithful_hexBytes faithful_done (by decide)

theorem ClusterConfig.faithful_codec :
  ClusterConfig.codec.Faithful
  := by
  apply faithful_record _ fun _ => rfl
  apply Faithful.required NodeConfig.faithful_codec.list _ (by decide)
  exact .required Admin.faithful_codec.list faithful_done (by decide)

/-! ### Payloads and envelopes -/

theorem DataTx.writesMembers_codec :
  DataTx.codec.WritesMembers ["must_sign_user_ids", "tx_id", "db_operations"]
  := by
  apply writesMembers_record _ fun _ => rfl
  apply Faithful.required faithful_text.list _ (by decide)
  apply Faithful.required faithful_text _ (by decide)
  exact .required DatabaseOperations.faithful_codec.list faithful_done (by decide)

theorem DatabaseTx.writesMembers_codec :
  DatabaseTx.codec.WritesMembers ["user_id", "tx_id", "create_dbs", "delete_dbs"]
  := by
  apply writesMembers_record _ fun _ => rfl
  apply Faithful.required faithful_text _ (by decide)
  apply Faithful.required faithful_text _ (by decide)
  apply Faithful.required faithful_text.list _ (by decide)
  exact .required faithful_text.list faithful_done (by decide)

theorem UserTx.writesMembers_codec :
  UserTx.codec.WritesMembers ["user_id", "tx_id", "user_reads", "user_writes", "user_deletes"]
  := by
  apply writesMembers_record _ fun _ => rfl
  apply Faithful.required faithful_text _ (by decide)
  apply Faithful.required faithful_text _ (by decide)
  apply Faithful.required UserRead.faithful_codec.list _ (by decide)
  apply Faithful.required UserWrite.faithful_codec.list _ (by decide)
  exact .required UserDelete.faithful_codec.list faithful_done (by decide)

theorem ConfigTx.writesMembers_codec :
  ConfigTx.codec.WritesMembers ["user_id", "tx_id", "read_old_config_version", "new_config"]
  := by
  apply writesMembers_record _ fun _ => rfl
  apply Faithful.required faithful_text _ (by decide)
  apply Faithful.required faithful_text _ (by decide)
  apply Faithful.optional Version.faithful_codec json_record_ne_nullWord _ (by decide)
  exact .required ClusterConfig.faithful_codec faithful_done (by decide)

theorem DataEnvelope.faithful_codec :
  DataEnvelope.codec.Faithful
  := by
  apply faithful_record _ fun _ => rfl
  apply Faithful.required DataTx.writesMembers_codec.faithful _ (by decide)
  exact .required faithful_base64Bytes.textMap faithful_done (by decide)

theorem SignedPayload.faithful_codec {α : Type} {c : Codec α} (hc : c.Faithful) :
  (SignedPayload.codec c).Faithful
  := by
  apply faithful_record _ fun _ => rfl
  apply Faithful.required hc _ (by decide)
  exact .required faithful_base64Bytes faithful_done (by decide)

/-! ### Kinds -/

namespace TxKind

/-- The names of the fields of a payload. -/
def payloadNames : TxKind → List String
  | .data => ["must_sign_user_ids", "tx_id", "db_operations"]
  | .database => ["user_id", "tx_id", "create_dbs", "delete_dbs"]
  | .user => ["user_id", "tx_id", "user_reads", "user_writes", "user_deletes"]
  | .config => ["user_id", "tx_id", "read_old_config_version", "new_config"]

/-- The kinds differ in the fields of their payloads. -/
theorem payloadNames_injective {k k' : TxKind} (h : k.payloadNames = k'.payloadNames) :
  k = k'
  := by
  cases k <;> cases k' <;> revert h <;> decide

end TxKind

namespace Envelope

/-- The JSON text of the payload. -/
def payloadJson : Envelope → Bytes
  | .data e => DataTx.codec.json e.payload
  | .database e => DatabaseTx.codec.json e.payload
  | .user e => UserTx.codec.json e.payload
  | .config e => ConfigTx.codec.json e.payload

/-- The payload as a value of the codec of its kind. -/
theorem exists_payloadJson (e : Envelope) :
  ∃ (α : Type) (c : Codec α) (v : α), c.WritesMembers e.kind.payloadNames
    ∧ e.payloadJson = c.json v
  := by
  cases e with
  | data e => exact ⟨_, _, _, DataTx.writesMembers_codec, rfl⟩
  | database e => exact ⟨_, _, _, DatabaseTx.writesMembers_codec, rfl⟩
  | user e => exact ⟨_, _, _, UserTx.writesMembers_codec, rfl⟩
  | config e => exact ⟨_, _, _, ConfigTx.writesMembers_codec, rfl⟩

/-- The content of an envelope starts with the payload. -/
theorem exists_content_eq (e : Envelope) :
  ∃ name signature, Json.Delimited signature
    ∧ e.content .json = Json.object [("payload", e.payloadJson), (name, signature)]
  := by
  cases e with
  | data e =>
    exact ⟨_, _, faithful_base64Bytes.textMap.delimited e.signatures, rfl⟩
  | database e => exact ⟨_, _, faithful_base64Bytes.delimited e.signature, rfl⟩
  | user e => exact ⟨_, _, faithful_base64Bytes.delimited e.signature, rfl⟩
  | config e => exact ⟨_, _, faithful_base64Bytes.delimited e.signature, rfl⟩

theorem delimited_payloadJson (e : Envelope) :
  Json.Delimited e.payloadJson
  := by
  obtain ⟨α, c, v, hc, he⟩ := e.exists_payloadJson
  rw [he]
  exact hc.faithful.delimited v

theorem delimited_content (e : Envelope) :
  Json.Delimited (e.content .json)
  := by
  obtain ⟨name, signature, hsignature, he⟩ := e.exists_content_eq
  rw [he]
  apply Json.delimited_object
  simp [e.delimited_payloadJson, hsignature]

theorem exists_members?_content (e : Envelope) :
  ∃ others, Json.members? (e.content .json) = some (("payload", e.payloadJson) :: others)
  := by
  obtain ⟨name, signature, hsignature, he⟩ := e.exists_content_eq
  use [(name, signature)]
  rw [he]
  apply Json.members?_object
  simp [e.delimited_payloadJson, hsignature]

/-- The content of an envelope tells its kind. -/
theorem kind_eq_of_content {e e' : Envelope} (h : e.content .json = e'.content .json) :
  e.kind = e'.kind
  := by
  obtain ⟨others, hmembers⟩ := e.exists_members?_content
  obtain ⟨others', hmembers'⟩ := e'.exists_members?_content
  rw [h, hmembers'] at hmembers
  have hpayload : e'.payloadJson = e.payloadJson := by
    have hhead := (List.cons.inj (Option.some.inj hmembers)).1
    exact (Prod.mk.inj hhead).2
  obtain ⟨α, c, v, hc, he⟩ := e.exists_payloadJson
  obtain ⟨β, d, w, hd, he'⟩ := e'.exists_payloadJson
  apply TxKind.payloadNames_injective
  apply hc.names_eq hd (v := v) (w := w)
  rw [← he, ← he', hpayload]

/-- The content of an envelope is written, and read for its kind, by one codec. -/
theorem exists_faithful (e : Envelope) :
  ∃ (α : Type) (c : Codec α) (wrap : α → Envelope) (v : α), c.Faithful ∧ wrap v = e
    ∧ e.content .json = c.json v ∧ ∀ t, ofTagged? e.kind t = (c.json? t).map wrap
  := by
  cases e with
  | data e => exact ⟨_, _, _, _, DataEnvelope.faithful_codec, rfl, rfl, fun _ => rfl⟩
  | database e =>
    have hc := SignedPayload.faithful_codec DatabaseTx.writesMembers_codec.faithful
    exact ⟨_, _, _, _, hc, rfl, rfl, fun _ => rfl⟩
  | user e =>
    have hc := SignedPayload.faithful_codec UserTx.writesMembers_codec.faithful
    exact ⟨_, _, _, _, hc, rfl, rfl, fun _ => rfl⟩
  | config e =>
    have hc := SignedPayload.faithful_codec ConfigTx.writesMembers_codec.faithful
    exact ⟨_, _, _, _, hc, rfl, rfl, fun _ => rfl⟩

theorem isText_content (e : Envelope) :
  Bytes.IsText (e.content .json)
  := by
  obtain ⟨α, c, wrap, v, hc, -, hcontent, -⟩ := e.exists_faithful
  rw [hcontent]
  exact hc.isText v

/-- The content of an envelope is read back as one of its kind. -/
theorem ofTagged?_content (e : Envelope) :
  ofTagged? e.kind (e.content .json) = some e
  := by
  obtain ⟨α, c, wrap, v, hc, he, hcontent, hread⟩ := e.exists_faithful
  rw [hread, hcontent, hc.json?_json, Option.map_some, he]

/-- Envelopes with the same content are equal. -/
theorem content_injective {e e' : Envelope} (h : e.content .json = e'.content .json) :
  e = e'
  := by
  have hread := e.ofTagged?_content
  rw [kind_eq_of_content h, h, e'.ofTagged?_content] at hread
  exact (Option.some.inj hread).symm

/-- No content is shorter than the names in its payload. -/
theorem le_length_content (e : Envelope) :
  40 ≤ (e.content .json).length
  := by
  obtain ⟨α, c, v, hc, hpayload⟩ := e.exists_payloadJson
  obtain ⟨name, signature, -, he⟩ := e.exists_content_eq
  have hnames : 40 ≤ (e.kind.payloadNames.map fun n => (Json.text n).length).sum := by
    cases e.kind <;> decide
  have hlength := Json.sum_le_length_object
    (fun m : String × Bytes => Nat.le_add_left m.2.length (Json.text m.1).length)
    [("payload", e.payloadJson), (name, signature)]
  have hle := hc.le_length v
  rw [he]
  simp only [List.map_cons, List.sum_cons, hpayload] at hlength
  rw [hpayload]
  omega

end Envelope

end LedgerTrust
