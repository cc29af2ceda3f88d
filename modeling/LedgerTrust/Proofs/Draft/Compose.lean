import LedgerTrust.Draft.Basic

/-!
# What drafts compose

An edit keeps the kind of a draft. The envelope that a draft makes has this kind and the identifier
it is made with, whatever operations the draft collects.
-/

namespace LedgerTrust

/-! ### Payloads -/

theorem DataDraft.txId_of_payload {d : DataDraft} {txId userId : String} {payload : DataTx}
    (h : d.payload txId userId = .ok payload) :
  payload.txId = txId
  := by
  unfold DataDraft.payload at h
  split at h
  · cases h
  · cases h
    rfl

theorem DatabaseTxDraft.ids_of_payload {d : DatabaseTxDraft} {txId userId : String}
    {payload : DatabaseTx} (h : d.payload txId userId = .ok payload) :
  payload.userId = userId ∧ payload.txId = txId
  := by
  unfold DatabaseTxDraft.payload at h
  split at h
  · cases h
  split at h
  · cases h
  · cases h
    exact ⟨rfl, rfl⟩

theorem UserTxDraft.ids_of_payload {d : UserTxDraft} {txId userId : String} {payload : UserTx}
    (h : d.payload txId userId = .ok payload) :
  payload.userId = userId ∧ payload.txId = txId
  := by
  unfold UserTxDraft.payload at h
  split at h
  · cases h
  · cases h
    exact ⟨rfl, rfl⟩

theorem ConfigTxDraft.ids_of_payload {d : ConfigTxDraft} {txId userId : String}
    {payload : ConfigTx} (h : d.payload txId userId = .ok payload) :
  payload.userId = userId ∧ payload.txId = txId
  := by
  unfold ConfigTxDraft.payload at h
  split at h
  · cases h
  split at h
  · cases h
  · cases h
    exact ⟨rfl, rfl⟩

namespace Draft

variable {d : Draft} {scheme : Scheme} {signer : Signer} {txId : String} {e : Envelope}

@[simp]
theorem kind_empty (kind : TxKind) :
  (empty kind).kind = kind
  := by
  cases kind with
  | _ => rfl

/-- An edit does not change the kind of a draft. -/
theorem kind_edited? {edit : Edit} {d' : Draft} (h : d.edited? edit = some d') :
  d'.kind = d.kind
  := by
  unfold edited? at h
  split at h
  · cases h
    rfl
  · cases h
    rfl
  · cases h
    rfl
  · cases h
    rfl
  · cases h

/-- What is wrapped around a payload, if there is a payload. -/
theorem exists_payload {α : Type} {payload? : Except ComposeError α} {wrap : α → Envelope}
    (h : (do
      let payload ← payload?
      return wrap payload) = Except.ok e) :
  ∃ payload, payload? = .ok payload ∧ wrap payload = e
  := by
  cases payload? with
  | error cause => cases h
  | ok payload =>
    cases h
    exact ⟨payload, rfl, rfl⟩

/-- The envelope of a draft is one of its kind, with the identifier that it is made with. -/
theorem envelope_eq_ok (h : d.envelope scheme signer txId = .ok e) :
  e.kind = d.kind ∧ e.txId = txId
  := by
  cases d with
  | data d =>
    obtain ⟨payload, hpayload, rfl⟩ := exists_payload h
    exact ⟨rfl, DataDraft.txId_of_payload hpayload⟩
  | database d =>
    obtain ⟨payload, hpayload, rfl⟩ := exists_payload h
    exact ⟨rfl, (DatabaseTxDraft.ids_of_payload hpayload).2⟩
  | user d =>
    obtain ⟨payload, hpayload, rfl⟩ := exists_payload h
    exact ⟨rfl, (UserTxDraft.ids_of_payload hpayload).2⟩
  | config d =>
    obtain ⟨payload, hpayload, rfl⟩ := exists_payload h
    exact ⟨rfl, (ConfigTxDraft.ids_of_payload hpayload).2⟩

end Draft

end LedgerTrust
