import LedgerTrust.Proofs.Ledger.Kind
import LedgerTrust.Proofs.Ledger.Response
import LedgerTrust.Proofs.Ledger.Transaction

/-!
# What travels is read back

`Wire` lists the codecs of all values that travel between a user and a node, or are hashed or
signed, with the condition of each that the lengths in a value fit. Under a scheme with JSON,
whatever is encoded is decoded to the same value; under one with binary, it is so if its lengths
fit, whatever bytes follow it. Hence encodings determine values, and in binary none begins with
that of another value.
-/

namespace LedgerTrust

open Codec Fields

/-! ### Schemes -/

theorem Scheme.faithful_codec :
  codec.Faithful
  := by
  apply faithful_record _ fun _ => rfl
  apply Faithful.defaulted (faithful_enumeration fun v => by cases v <;> decide) _ _ (by decide)
  apply Faithful.defaulted (faithful_enumeration fun v => by cases v <;> decide) _ _ (by decide)
  apply Faithful.defaulted _ _ faithful_done (by decide)
  exact faithful_enumeration fun v => by cases v <;> decide

theorem Scheme.compact_codec :
  codec.Compact fun _ => True
  := by
  have hhash : (enumeration HashFunction.all HashFunction.name).Compact fun _ => True :=
    compact_enumeration (fun v => by cases v <;> decide) (by decide)
  have hencoding : (enumeration Encoding.all Encoding.name).Compact fun _ => True :=
    compact_enumeration (fun v => by cases v <;> decide) (by decide)
  have horder : (enumeration SiblingOrder.all SiblingOrder.name).Compact fun _ => True :=
    compact_enumeration (fun v => by cases v <;> decide) (by decide)
  apply Compact.of_iff
  · apply compact_record (List.cons_ne_nil _ _) fun _ => rfl
    apply Compact.defaulted hhash
    apply Compact.defaulted hencoding
    exact .defaulted horder compact_done _
  · simp

/-! ### Envelopes with their kind -/

namespace Envelope

theorem find?_tag (k : TxKind) :
  TxKind.all.find? (·.tag = k.tag) = some k
  := by
  cases k <;> decide

theorem faithful_codec :
  codec.Faithful
  where
  delimited e := Json.delimited_object (by simp [e.delimited_content])
  isText e := Json.isText_object (by simp [e.isText_content])
  json?_json e := by
    have hmembers : Json.members? (Json.object [(e.kind.tag, e.content .json)])
        = some [(e.kind.tag, e.content .json)] :=
      Json.members?_object (by simp [e.delimited_content])
    simp only [codec, hmembers, find?_tag, bind, Option.bind_some, ofTagged?_content]

end Envelope

/-! ### Proofs -/

theorem InclusionProof.faithful_codec :
  codec.Faithful
  := by
  apply faithful_record _ fun _ => rfl
  exact .required faithful_digest.list faithful_done (by decide)

def InclusionProof.Fits (p : InclusionProof) : Prop := p.hashes.length < UInt64.size

theorem InclusionProof.compact_codec :
  codec.Compact Fits
  := by
  apply Compact.of_iff
  · apply compact_record (List.cons_ne_nil _ _) fun _ => rfl
    exact .required compact_digest.list compact_done
  · simp [Fits, ListFits]

theorem TrieNode.faithful_codec :
  codec.Faithful
  := by
  apply faithful_record _ fun _ => rfl
  exact .required faithful_digest.list faithful_done (by decide)

def TrieNode.Fits (n : TrieNode) : Prop := n.hashes.length < UInt64.size

theorem TrieNode.compact_codec :
  codec.Compact Fits
  := by
  apply Compact.of_iff
  · apply compact_record (List.cons_ne_nil _ _) fun _ => rfl
    exact .required compact_digest.list compact_done
  · simp [Fits, ListFits]

theorem DataProof.faithful_codec :
  codec.Faithful
  := by
  apply faithful_record _ fun _ => rfl
  exact .required TrieNode.faithful_codec.list faithful_done (by decide)

def DataProof.Fits (p : DataProof) : Prop := ListFits TrieNode.Fits p.path

theorem DataProof.compact_codec :
  codec.Compact Fits
  := by
  apply Compact.of_iff
  · apply compact_record (List.cons_ne_nil _ _) fun _ => rfl
    exact .required TrieNode.compact_codec.list compact_done
  · simp [Fits]

theorem LedgerPath.faithful_codec :
  codec.Faithful
  := by
  apply faithful_record _ fun _ => rfl
  exact .required BlockHeader.faithful_codec.list faithful_done (by decide)

def LedgerPath.Fits (p : LedgerPath) : Prop := ListFits BlockHeader.Fits p.headers

theorem LedgerPath.compact_codec :
  codec.Compact Fits
  := by
  apply Compact.of_iff
  · apply compact_record (List.cons_ne_nil _ _) fun _ => rfl
    exact .required BlockHeader.compact_codec.list compact_done
  · simp [Fits]

/-! ### Responses -/

namespace Response

variable {α : Type} {content : Fields (α × Unit)} {fits : α → Prop}

def Fits (fits : α → Prop) (r : Response α) : Prop := TextFits r.nodeId ∧ fits r.content

theorem compact_headerCodec :
  headerCodec.Compact TextFits
  := by
  apply Compact.of_iff
  · apply compact_record (List.cons_ne_nil _ _) fun _ => rfl
    exact .required compact_text compact_done
  · simp

/-- A response fits if the name of the node and the content do. -/
theorem compact_codec (hcontent : content.Compact fun v => fits v.1 ∧ True) :
  (codec content).Compact (Fits fits)
  := by
  apply Compact.of_iff
  · apply compact_record (List.cons_ne_nil _ _) fun _ => rfl
    exact .required compact_headerCodec hcontent
  · simp [Fits]

end Response

/-! ### All values that travel -/

/-- The codecs of values that travel, and of their parts, each with what it is for a value to
have lengths that fit. -/
inductive Wire : {α : Type} → Codec α → (α → Prop) → Prop
  | scheme : Wire Scheme.codec fun _ => True
  | validationFlag : Wire ValidationFlag.codec fun _ => True
  | validationInfo : Wire ValidationInfo.codec ValidationInfo.Fits
  | baseHeader : Wire BaseHeader.codec fun _ => True
  | blockHeader : Wire BlockHeader.codec BlockHeader.Fits
  | txReceipt : Wire TxReceipt.codec TxReceipt.Fits
  | version : Wire Version.codec fun _ => True
  | accessControl : Wire AccessControl.codec AccessControl.Fits
  | dataRead : Wire DataRead.codec DataRead.Fits
  | dataWrite : Wire DataWrite.codec DataWrite.Fits
  | dataDelete : Wire DataDelete.codec DataDelete.Fits
  | databaseOperations : Wire DatabaseOperations.codec DatabaseOperations.Fits
  | permission : Wire (enumeration Permission.all Permission.name) fun _ => True
  | user : Wire User.codec User.Fits
  | userRead : Wire UserRead.codec UserRead.Fits
  | userWrite : Wire UserWrite.codec UserWrite.Fits
  | userDelete : Wire UserDelete.codec UserDelete.Fits
  | nodeConfig : Wire NodeConfig.codec NodeConfig.Fits
  | admin : Wire Admin.codec Admin.Fits
  | clusterConfig : Wire ClusterConfig.codec ClusterConfig.Fits
  | dataTx : Wire DataTx.codec DataTx.Fits
  | databaseTx : Wire DatabaseTx.codec DatabaseTx.Fits
  | userTx : Wire UserTx.codec UserTx.Fits
  | configTx : Wire ConfigTx.codec ConfigTx.Fits
  | dataEnvelope : Wire DataEnvelope.codec DataEnvelope.Fits
  | databaseEnvelope :
    Wire (SignedPayload.codec DatabaseTx.codec) (SignedPayload.Fits DatabaseTx.Fits)
  | userEnvelope : Wire (SignedPayload.codec UserTx.codec) (SignedPayload.Fits UserTx.Fits)
  | configEnvelope : Wire (SignedPayload.codec ConfigTx.codec) (SignedPayload.Fits ConfigTx.Fits)
  | envelope : Wire Envelope.codec Envelope.Fits
  | inclusionProof : Wire InclusionProof.codec InclusionProof.Fits
  | trieNode : Wire TrieNode.codec TrieNode.Fits
  | dataProof : Wire DataProof.codec DataProof.Fits
  | ledgerPath : Wire LedgerPath.codec LedgerPath.Fits
  | responseHeader : Wire Response.headerCodec TextFits
  | submissionResponse :
    Wire Response.submissionCodec (Response.Fits (OptionFits TxReceipt.Fits))
  | blockResponse : Wire Response.blockCodec (Response.Fits BlockHeader.Fits)
  | pathResponse : Wire Response.pathCodec (Response.Fits (ListFits BlockHeader.Fits))
  | inclusionProofResponse :
    Wire Response.inclusionProofCodec (Response.Fits (·.length < UInt64.size))
  | receiptResponse : Wire Response.receiptCodec (Response.Fits TxReceipt.Fits)
  | dataProofResponse : Wire Response.dataProofCodec (Response.Fits (ListFits TrieNode.Fits))

namespace Wire

variable {α : Type} {c : Codec α} {fits : α → Prop}

theorem faithful (h : Wire c fits) :
  c.Faithful
  := by
  cases h with
  | scheme => exact Scheme.faithful_codec
  | validationFlag => exact ValidationFlag.faithful_codec
  | validationInfo => exact ValidationInfo.writesMembers_codec.faithful
  | baseHeader => exact BaseHeader.faithful_codec
  | blockHeader => exact BlockHeader.faithful_codec
  | txReceipt => exact TxReceipt.faithful_codec
  | version => exact Version.faithful_codec
  | accessControl => exact AccessControl.faithful_codec
  | dataRead => exact DataRead.faithful_codec
  | dataWrite => exact DataWrite.faithful_codec
  | dataDelete => exact DataDelete.faithful_codec
  | databaseOperations => exact DatabaseOperations.faithful_codec
  | permission => exact Permission.faithful_codec
  | user => exact User.faithful_codec
  | userRead => exact UserRead.faithful_codec
  | userWrite => exact UserWrite.faithful_codec
  | userDelete => exact UserDelete.faithful_codec
  | nodeConfig => exact NodeConfig.faithful_codec
  | admin => exact Admin.faithful_codec
  | clusterConfig => exact ClusterConfig.faithful_codec
  | dataTx => exact DataTx.writesMembers_codec.faithful
  | databaseTx => exact DatabaseTx.writesMembers_codec.faithful
  | userTx => exact UserTx.writesMembers_codec.faithful
  | configTx => exact ConfigTx.writesMembers_codec.faithful
  | dataEnvelope => exact DataEnvelope.faithful_codec
  | databaseEnvelope => exact SignedPayload.faithful_codec DatabaseTx.writesMembers_codec.faithful
  | userEnvelope => exact SignedPayload.faithful_codec UserTx.writesMembers_codec.faithful
  | configEnvelope => exact SignedPayload.faithful_codec ConfigTx.writesMembers_codec.faithful
  | envelope => exact Envelope.faithful_codec
  | inclusionProof => exact InclusionProof.faithful_codec
  | trieNode => exact TrieNode.faithful_codec
  | dataProof => exact DataProof.faithful_codec
  | ledgerPath => exact LedgerPath.faithful_codec
  | responseHeader => exact Response.faithful_headerCodec
  | submissionResponse =>
    apply Response.faithful_codec _ (by decide)
    apply Faithful.defaulted _ _ faithful_done (by decide)
    exact TxReceipt.faithful_codec.option json_record_ne_nullWord
  | blockResponse =>
    apply Response.faithful_codec _ (by decide)
    exact .required BlockHeader.faithful_codec faithful_done (by decide)
  | pathResponse =>
    apply Response.faithful_codec _ (by decide)
    exact .required BlockHeader.faithful_codec.list faithful_done (by decide)
  | inclusionProofResponse =>
    apply Response.faithful_codec _ (by decide)
    exact .required faithful_digest.list faithful_done (by decide)
  | receiptResponse =>
    apply Response.faithful_codec _ (by decide)
    exact .required TxReceipt.faithful_codec faithful_done (by decide)
  | dataProofResponse =>
    apply Response.faithful_codec _ (by decide)
    exact .required TrieNode.faithful_codec.list faithful_done (by decide)

theorem compact (h : Wire c fits) :
  c.Compact fits
  := by
  cases h with
  | scheme => exact Scheme.compact_codec
  | validationFlag => exact ValidationFlag.compact_codec
  | validationInfo => exact ValidationInfo.compact_codec
  | baseHeader => exact BaseHeader.compact_codec
  | blockHeader => exact BlockHeader.compact_codec
  | txReceipt => exact TxReceipt.compact_codec
  | version => exact Version.compact_codec
  | accessControl => exact AccessControl.compact_codec
  | dataRead => exact DataRead.compact_codec
  | dataWrite => exact DataWrite.compact_codec
  | dataDelete => exact DataDelete.compact_codec
  | databaseOperations => exact DatabaseOperations.compact_codec
  | permission => exact Permission.compact_codec
  | user => exact User.compact_codec
  | userRead => exact UserRead.compact_codec
  | userWrite => exact UserWrite.compact_codec
  | userDelete => exact UserDelete.compact_codec
  | nodeConfig => exact NodeConfig.compact_codec
  | admin => exact Admin.compact_codec
  | clusterConfig => exact ClusterConfig.compact_codec
  | dataTx => exact DataTx.compact_codec
  | databaseTx => exact DatabaseTx.compact_codec
  | userTx => exact UserTx.compact_codec
  | configTx => exact ConfigTx.compact_codec
  | dataEnvelope => exact DataEnvelope.compact_codec
  | databaseEnvelope => exact SignedPayload.compact_codec DatabaseTx.compact_codec
  | userEnvelope => exact SignedPayload.compact_codec UserTx.compact_codec
  | configEnvelope => exact SignedPayload.compact_codec ConfigTx.compact_codec
  | envelope => exact Envelope.compact_codec
  | inclusionProof => exact InclusionProof.compact_codec
  | trieNode => exact TrieNode.compact_codec
  | dataProof => exact DataProof.compact_codec
  | ledgerPath => exact LedgerPath.compact_codec
  | responseHeader => exact Response.compact_headerCodec
  | submissionResponse =>
    exact Response.compact_codec (.defaulted TxReceipt.compact_codec.option compact_done none)
  | blockResponse => exact Response.compact_codec (.required BlockHeader.compact_codec compact_done)
  | pathResponse =>
    exact Response.compact_codec (.required BlockHeader.compact_codec.list compact_done)
  | inclusionProofResponse =>
    apply (Response.compact_codec (.required compact_digest.list compact_done)).of_iff
    simp [Response.Fits, ListFits]
  | receiptResponse => exact Response.compact_codec (.required TxReceipt.compact_codec compact_done)
  | dataProofResponse =>
    exact Response.compact_codec (.required TrieNode.compact_codec.list compact_done)

/-- Under a scheme with JSON, whatever travels is decoded to what was encoded. Hence no two values
of a type are encoded alike. -/
theorem decode?_encode_json (h : Wire c fits) {s : Scheme} (hs : s.encoding = .json) :
  (∀ v, s.decode? c (s.encode c v) = some v)
    ∧ ∀ v w, s.encode c v = s.encode c w → v = w
  := by
  have hjson : ∀ v, s.encode c v = c.json v := by
    intro v
    rw [Scheme.encode, hs, Encoding.write]
  constructor
  · intro v
    rw [hjson, Scheme.decode?, hs]
    exact h.faithful.ofJson?_json v
  · intro v w hvw
    rw [hjson, hjson] at hvw
    exact h.faithful.json_injective hvw

/-- A write of bytes that are no text under a key that is escaped, after a read of the last version
there can be. -/
def Sample.unusual : Envelope :=
  .data ⟨⟨["alice"], "tx-3",
    [⟨"db", [⟨"ключ", some ⟨18446744073709551615, 0⟩⟩], [⟨"\n\"", [0, 255], none⟩], []⟩]⟩,
    TextMap.empty.insert "alice" []⟩

theorem decode?_encode_json_unusual :
  Scheme.version1.encoding = .json
    ∧ Scheme.version1.decode? Envelope.codec (Scheme.version1.encode Envelope.codec Sample.unusual)
      = some Sample.unusual
  := ⟨rfl, (decode?_encode_json .envelope rfl).1 Sample.unusual⟩

/-- Under a scheme with binary, whatever travels and has lengths that fit is decoded to what was
encoded, and the bytes that follow it are left. Hence if the encoding of a value is the one of
another or the beginning of it, the values are the same. -/
theorem decode?_encode_append (h : Wire c fits) {s : Scheme} (hs : s.encoding = .binary) :
  (∀ v, fits v → ∀ rest, s.decode? c (s.encode c v ++ rest) = some v
      ∧ c.binary? (s.encode c v ++ rest) = some (v, rest))
    ∧ ∀ v w, fits v → fits w → s.encode c v <+: s.encode c w → v = w
  := by
  have hread : ∀ v, fits v → ∀ rest, c.binary? (s.encode c v ++ rest) = some (v, rest) := by
    intro v hv rest
    rw [Scheme.encode, hs, Encoding.write]
    exact (h.compact.readsBack v hv).binary?_append rest
  constructor
  · intro v hv rest
    constructor
    · rw [Scheme.decode?, hs, Encoding.read?, ofBinary?, hread v hv, Option.map_some]
    · exact hread v hv rest
  · rintro v w hv hw ⟨rest, hrest⟩
    have hw := hread w hw []
    rw [List.append_nil, ← hrest, hread v hv] at hw
    cases hw
    rfl

theorem decode?_encode_append_unusual :
  Sample.unusual.Fits ∧ Sample.compactScheme.encoding = .binary
    ∧ Sample.compactScheme.decode? Envelope.codec
        (Sample.compactScheme.encode Envelope.codec Sample.unusual ++ [0, 1]) = some Sample.unusual
  := by
  have hfits : Sample.unusual.Fits := Envelope.fits_of_length_content (by decide +kernel)
  exact ⟨hfits, rfl, ((decode?_encode_append .envelope rfl).1 Sample.unusual hfits [0, 1]).1⟩

end Wire

end LedgerTrust
