import LedgerTrust.Proof.Inclusion
import LedgerTrust.Proofs.Ledger.Scheme
import LedgerTrust.Proofs.Ledger.Transaction

/-!
# Leaves of transactions

In JSON, what is hashed for the leaf of a transaction determines the envelope and the outcome: the
envelope is delimited, so it is known where it ends. It is also longer than two digests, so it is
never what is hashed to combine two nodes of a tree.
-/

namespace LedgerTrust

variable {s : Scheme}

theorem leafBytes_of_json (hs : s.encoding = .json) (e : Envelope) (info : ValidationInfo) :
  leafBytes s e info = e.content .json ++ ValidationInfo.codec.json info
  := by
  simp [leafBytes, Envelope.canonicalBytes, Scheme.encode, Encoding.write, hs]

/-- The text of a record does not continue a number. -/
theorem ValidationInfo.stops_json (info : ValidationInfo) :
  Json.Stops (ValidationInfo.codec.json info)
  := Json.stops_cons.2 rfl

/-- What is hashed for a leaf determines the transaction and its outcome. -/
theorem leafBytes_injective (hs : s.encoding = .json) {e e' : Envelope}
    {info info' : ValidationInfo} (h : leafBytes s e info = leafBytes s e' info') :
  e = e' ∧ info = info'
  := by
  rw [leafBytes_of_json hs, leafBytes_of_json hs] at h
  obtain ⟨hcontent, hinfo⟩ := e.delimited_content.append_inj e'.delimited_content
    info.stops_json info'.stops_json h
  constructor
  · exact Envelope.content_injective hcontent
  · exact ValidationInfo.writesMembers_codec.faithful.json_injective hinfo

/-- In JSON the canonical bytes of an envelope followed by those of an outcome are the same for
two transactions exactly if these are the same envelope, of the same kind, with the same outcome. -/
theorem Envelope.canonicalBytes_append_eq_iff (hs : s.encoding = .json) {e e' : Envelope}
    {info info' : ValidationInfo} :
  e.canonicalBytes s ++ s.encode ValidationInfo.codec info
      = e'.canonicalBytes s ++ s.encode ValidationInfo.codec info'
    ↔ e = e' ∧ info = info'
  := by
  constructor
  · intro h
    exact leafBytes_injective hs h
  · rintro ⟨rfl, rfl⟩
    rfl

/-- Two transactions of different kinds, with all else empty, have different leaves. -/
theorem Envelope.canonicalBytes_append_eq_iff_empty :
  Scheme.version1.encoding = .json
    ∧ canonicalBytes .version1 (.database ⟨⟨"", "", [], []⟩, []⟩)
        ++ Scheme.version1.encode ValidationInfo.codec .valid
      ≠ canonicalBytes .version1 (.user ⟨⟨"", "", [], [], []⟩, []⟩)
        ++ Scheme.version1.encode ValidationInfo.codec .valid
  := by
  constructor
  · rfl
  · intro h
    cases ((canonicalBytes_append_eq_iff rfl).1 h).1

/-- What is hashed for a leaf is never what is hashed to combine two digests. -/
theorem leafBytes_ne_pairBytes (hs : s.encoding = .json) (e : Envelope) (info : ValidationInfo)
    (left right : Digest) :
  leafBytes s e info ≠ Scheme.pairBytes left right
  := by
  intro h
  have hlength := congrArg List.length h
  have hcontent := e.le_length_content
  have hnames : 25 ≤ (["flag", "reason_if_invalid"].map fun n => (Json.text n).length).sum := by
    decide
  have hinfo := ValidationInfo.writesMembers_codec.le_length info
  rw [Scheme.length_pairBytes, leafBytes_of_json hs, List.length_append] at hlength
  omega

end LedgerTrust
